/-! Kinds of payment, their wire codes and the two families that views tell apart. -/

namespace BoostFeed.Feed

inductive Action where
  | unknown
  | stream
  | boost
  | invalid
  | auto
  | invoice
deriving DecidableEq, Inhabited

inductive ActionClass where
  | boost
  | stream
deriving DecidableEq

namespace Action

/-- The wire code. -/
def code : Action → UInt8
  | .unknown => 0
  | .stream => 1
  | .boost => 2
  | .invalid => 3
  | .auto => 4
  | .invoice => 5

/-- A code outside the list is an unknown action. -/
def ofCode (c : UInt8) : Action :=
  match c.toNat with
  | 1 => .stream
  | 2 => .boost
  | 3 => .invalid
  | 4 => .auto
  | 5 => .invoice
  | _ => .unknown

/-- Boosts, automatic boosts and invoices are boosts; all else counts as a stream. -/
def kind : Action → ActionClass
  | .boost | .auto | .invoice => .boost
  | .unknown | .stream | .invalid => .stream

theorem ofCode_code (a : Action) : ofCode a.code = a := by cases a <;> rfl

end Action

end BoostFeed.Feed
