import BoostFeed.Number.Digits
import BoostFeed.Number.Shortest

/-! Numbers of a JSON text. A `Numeral` keeps every digit as written; a `Number` is what generic data
holds: a 64-bit integer where the numeral has neither fraction nor exponent and fits, else a
binary64 number. -/

namespace BoostFeed.Json

open BoostFeed.Number (Binary64 Digit ofDigits)

/-- A number as written. -/
structure Numeral where
  negative : Bool
  whole : Nat
  fraction : List Digit
  exponent : Option Int
deriving DecidableEq

namespace Numeral

/-- The numeral of an integer. -/
def ofInt (n : Int) : Numeral := ⟨n < 0, n.natAbs, [], none⟩

/-- The integer a numeral without fraction and exponent writes. `-0` writes none. -/
def toInt? (n : Numeral) : Option Int :=
  if n.fraction ≠ [] ∨ n.exponent.isSome then none
  else if n.negative then (if n.whole = 0 then none else some (-(n.whole : Int)))
  else some n.whole

/-- The exponent mark is `e`, always with a sign. -/
def exponentText (e : Int) : List Char :=
  'e' :: (if e < 0 then '-' else '+') :: Text.digitsOf e.natAbs

def print (n : Numeral) : List Char :=
  (if n.negative then ['-'] else []) ++ Text.digitsOf n.whole ++
    (if n.fraction.isEmpty then [] else '.' :: n.fraction.map Digit.char) ++
    (n.exponent.map exponentText).getD []

end Numeral

/-- A number of generic data. -/
inductive Number where
  | natural (n : UInt64)
  | negative (n : Int64)
  | double (x : Binary64)
deriving DecidableEq

/-- The leading digits of a numeral that fit 64 bits, and the power of ten they stand for. -/
structure Leading where
  significand : Nat
  power : Int
  full : Bool

namespace Leading

/-- A digit before the point: once one did not fit, it and all after it only raise the power. -/
def whole (l : Leading) (d : Digit) : Leading :=
  let next := 10 * l.significand + d.val
  if l.full || UInt64.size ≤ next then { l with power := l.power + 1, full := true }
  else { l with significand := next }

/-- A digit after the point: once one did not fit, it and all after it are dropped. -/
def fraction (l : Leading) (d : Digit) : Leading :=
  let next := 10 * l.significand + d.val
  if l.full || UInt64.size ≤ next then { l with full := true }
  else { l with significand := next, power := l.power - 1 }

/-- The leading digits of a numeral, its exponent aside. -/
def ofNumeral (n : Numeral) : Leading :=
  let l := (BoostFeed.Number.digits n.whole).foldl whole ⟨0, 0, false⟩
  n.fraction.foldl fraction { l with full := false }

end Leading

/-- The binary64 number next to a power of ten up to 308. -/
def powerOfTen? (k : Nat) : Option Binary64 := Binary64.ofQuotient? false (Nat.pow 10 k) 1

/-- `x · 10^power`, rounding at every step; tiny results are reached by repeated division by
`10^308`. The steps are bounded by the number of those divisions. -/
def scaleByPower? (x : Binary64) (power : Int) : Nat → Option Binary64
  | 0 => none
  | steps + 1 =>
    if power.natAbs ≤ 308 then do
      let p ← powerOfTen? power.natAbs
      if 0 ≤ power then x.mul? p else x.div? p
    else if x.significand = 0 then some x
    else if 0 ≤ power then none
    else do
      let p ← powerOfTen? 308
      scaleByPower? (← x.div? p) (power + 308) steps

/-- The binary64 number that a numeral reads as: its leading digits rounded, then scaled. Beyond the
largest number there is none; an exponent of more than 31 bits gives zero or nothing. -/
def Numeral.toDouble? (n : Numeral) : Option Binary64 := do
  let l := Leading.ofNumeral n
  let e := n.exponent.getD 0
  if Int32.maxValue.toInt < e.natAbs then
    if l.significand ≠ 0 ∧ 0 < e then none else some (Binary64.zero n.negative)
  else do
    let power := max Int32.minValue.toInt (min Int32.maxValue.toInt (l.power + e))
    let x ← Binary64.ofQuotient? false l.significand 1
    let scaled ← scaleByPower? x power 8
    some (if n.negative then scaled.neg else scaled)

/-- What a numeral is in generic data. -/
def Number.ofNumeral? (n : Numeral) : Option Number :=
  match n.toInt? with
  | some k =>
    if 0 ≤ k ∧ k < UInt64.size then some (.natural (UInt64.ofNat k.toNat))
    else if Int64.minValue.toInt ≤ k ∧ k < 0 then some (.negative (Int64.ofInt k))
    else n.toDouble?.map .double
  | none => n.toDouble?.map .double

/-- The digits without the zeros at the end, and how many zeros went. -/
def dropTrailingZeros (ds : List Digit) : List Digit × Nat :=
  let kept := (ds.reverse.dropWhile (·.val == 0)).reverse
  (kept, ds.length - kept.length)

/-- How a binary64 number is written: the shortest digits that read back; with a point and at least
one place from `1e-5` to below `1e16`, else with an exponent and no forced place. -/
def Numeral.ofDouble (x : Binary64) : Numeral :=
  if x.significand = 0 then ⟨x.negative, 0, [.ofNat 0], none⟩
  else
    let s := x.shortest
    let (ds, zeros) := dropTrailingZeros (BoostFeed.Number.digits s.digits)
    let power := s.power + zeros
    let top : Int := ds.length + power - 1
    if -5 ≤ top ∧ top < 16 then
      if 0 ≤ power then ⟨x.negative, ofDigits ds * Nat.pow 10 power.toNat, [.ofNat 0], none⟩
      else if top < 0 then ⟨x.negative, 0, List.replicate (-top - 1).toNat (.ofNat 0) ++ ds, none⟩
      else ⟨x.negative, ofDigits (ds.take (top + 1).toNat), ds.drop (top + 1).toNat, none⟩
    else ⟨x.negative, ofDigits (ds.take 1), ds.drop 1, some top⟩

/-- How a number of generic data is written. -/
def Number.toNumeral : Number → Numeral
  | .natural n => .ofInt n.toNat
  | .negative n => .ofInt n.toInt
  | .double x => .ofDouble x

end BoostFeed.Json
