import BoostFeed.Json.Value

/-! The balance indicator. A reading shows only when it differs from what is shown. -/

namespace BoostFeed

open Json

/-- What the indicator shows: an amount and whether it rose, or why there is none. -/
inductive Balance where
  | sats (amount : Int64) (increased : Bool)
  | error (reason : String)
deriving DecidableEq

/-- The readings so far: the last amount, and the error since then if there was one. -/
structure BalanceTracker where
  last : Option Int64 := none
  error : Option String := none
deriving DecidableEq, Inhabited

/-- Whole sats of a numeric reading, within 64 bits. -/
def Json.Value.sats? : Value → Option Int64
  | .number (.natural n) => some (Int64.ofInt (min n.toNat Int64.maxValue.toInt))
  | .number (.negative n) => some n
  | .number (.double x) => some x.toInt64Clamped
  | _ => none

namespace BalanceTracker

/-- An unusable reading. The same reason twice in a row shows once. -/
def observeError (t : BalanceTracker) (reason : String) : Option Balance × BalanceTracker :=
  if t.error = some reason then (none, t)
  else (some (.error reason), { t with error := some reason })

/-- A numeric reading. -/
def observeSats (t : BalanceTracker) (amount : Int64) : Option Balance × BalanceTracker :=
  let increased := match t.last with
    | some previous => decide (previous < amount)
    | none => false
  let next : BalanceTracker := { last := some amount, error := none }
  if t.last = some amount ∧ t.error = none then (none, next) else (some (.sats amount increased), next)

/-- A raw reading. -/
def observe (t : BalanceTracker) (raw : Value) : Option Balance × BalanceTracker :=
  match raw.sats? with
  | some amount => t.observeSats amount
  | none => t.observeError ("unexpected balance: " ++ raw.print)

end BalanceTracker

end BoostFeed
