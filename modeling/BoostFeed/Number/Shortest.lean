import BoostFeed.Number.Binary64

/-! The fewest decimal digits that read back as the same binary64 number, and among those the digits
nearest to it. -/

namespace BoostFeed.Number

/-- `digits · 10^power`. -/
structure Scientific where
  digits : Nat
  power : Int
deriving DecidableEq

namespace Binary64

/-- The reals that round to a number, as naturals over one denominator: lower end, the number, upper
end. The ends belong to the interval when the significand is even. -/
structure Interval where
  low : Nat
  value : Nat
  high : Nat
  den : Nat
  closed : Bool

/-- The reals that round to the absolute value. Below a power of two the neighbours stand half as
far apart. -/
def interval (x : Binary64) : Interval :=
  let m := x.significand
  let below := if m = leastFull ∧ x.exponent ≠ -1074 then 4 * m - 1 else 4 * m - 2
  let (up, den) := if x.exponent < 2 then (1, Nat.pow 2 (2 - x.exponent).toNat) else (Nat.pow 2 (x.exponent - 2).toNat, 1)
  { low := below * up, value := 4 * m * up, high := (4 * m + 2) * up, den, closed := m % 2 = 0 }

/-- Whether `c · 10^k` lies in the interval. -/
def Interval.contains (i : Interval) (c : Nat) (k : Int) : Bool :=
  let v := if k < 0 then c * i.den else c * Nat.pow 10 k.toNat * i.den
  let s := if k < 0 then Nat.pow 10 (-k).toNat else 1
  if i.closed then i.low * s ≤ v && v ≤ i.high * s else i.low * s < v && v < i.high * s

/-- The value's two neighbours on the grid `10^k`, the nearer one first. -/
def Interval.neighbours (i : Interval) (k : Int) : List Nat :=
  let n := if k < 0 then i.value * Nat.pow 10 (-k).toNat else i.value
  let d := if k < 0 then i.den else i.den * Nat.pow 10 k.toNat
  let nearest := roundDiv n d
  let floor := n / d
  [nearest, if nearest = floor then floor + 1 else floor]

/-- The power of ten at or below a positive quotient. -/
def decimalExponent (n d : Nat) : Int :=
  if d ≤ n then ((Nat.toDigits 10 (n / d)).length : Int) - 1
  else
    let k := (Nat.toDigits 10 (d / n)).length
    if Nat.pow 10 (k - 1) * n = d then 1 - (k : Int) else -(k : Int)

/-- The first hit among grids of ever more digits, up to seventeen. -/
def search (i : Interval) (top : Int) : List Nat → Scientific
  | [] => ⟨0, 0⟩
  | n :: ns =>
    let k := top - n
    match (i.neighbours k).find? (i.contains · k) with
    | some c => ⟨c, k⟩
    | none => search i top ns

/-- The fewest digits that read back as the absolute value, nearest first. -/
def shortest (x : Binary64) : Scientific :=
  if x.significand = 0 then ⟨0, 0⟩
  else
    let i := x.interval
    search i (decimalExponent i.value i.den) (List.range 17)

end Binary64

end BoostFeed.Number
