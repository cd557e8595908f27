/-! Finite numbers in the binary64 format, held exactly: a sign, a significand below 2^53 and a power
of two. Quotients of naturals round to the nearest such number, a tie to the even significand. -/

namespace BoostFeed.Number

/-- The least significand that uses all 53 bits. -/
def leastFull : Nat := 4503599627370496

/-- A finite number of the binary64 format, `±significand · 2^exponent`, in its one normal form. -/
structure Binary64 where
  negative : Bool
  significand : Nat
  exponent : Int
  significand_lt : significand < 2 * leastFull := by decide
  exponent_ge : -1074 ≤ exponent := by decide
  exponent_le : exponent ≤ 971 := by decide
  normal : leastFull ≤ significand ∨ exponent = -1074 := by decide
deriving DecidableEq

/-- The quotient of two naturals at the nearest integer, a tie at the even one. -/
def roundDiv (n d : Nat) : Nat :=
  let q := n / d
  let twice := 2 * (n % d)
  if twice < d then q else if d < twice then q + 1 else if q % 2 = 0 then q else q + 1

namespace Binary64

/-- Zero with a sign. -/
def zero (negative : Bool) : Binary64 := ⟨negative, 0, -1074, by decide, by decide, by decide, by decide⟩

/-- The other sign. -/
def neg (x : Binary64) : Binary64 := { x with negative := !x.negative }

/-- `n / d · 2^(-e)` as a pair of naturals. -/
def scaled (n d : Nat) (e : Int) : Nat × Nat :=
  if e < 0 then (n * Nat.pow 2 (-e).toNat, d) else (n, d * Nat.pow 2 e.toNat)

/-- The power of two that leaves the quotient with 53 bits, or the least one of the format. -/
def unitExponent (n d : Nat) : Int :=
  let guess : Int := (Nat.log2 n : Int) - (Nat.log2 d : Int) - 52
  let (a, b) := scaled n d guess
  let fitted := if a / b < leastFull then guess - 1 else guess
  max fitted (-1074)

/-- The number with this significand and power of two, if the format has it. -/
def make? (negative : Bool) (m : Nat) (e : Int) : Option Binary64 :=
  if h : m < 2 * leastFull ∧ -1074 ≤ e ∧ e ≤ 971 ∧ (leastFull ≤ m ∨ e = -1074) then
    some ⟨negative, m, e, h.1, h.2.1, h.2.2.1, h.2.2.2⟩
  else none

/-- The nearest number of the format to `±n / d`; none if that lies beyond the largest. -/
def ofQuotient? (negative : Bool) (n d : Nat) : Option Binary64 :=
  if n = 0 then some (zero negative)
  else
    let e := unitExponent n d
    let (a, b) := scaled n d e
    let m := roundDiv a b
    if m = 2 * leastFull then make? negative leastFull (e + 1) else make? negative m e

/-- The absolute value as a pair of naturals, numerator and denominator. -/
def magnitude (x : Binary64) : Nat × Nat :=
  if x.exponent < 0 then (x.significand, Nat.pow 2 (-x.exponent).toNat)
  else (x.significand * Nat.pow 2 x.exponent.toNat, 1)

/-- Product at the nearest number of the format; none beyond the largest. -/
def mul? (x y : Binary64) : Option Binary64 :=
  let (a, b) := x.magnitude
  let (c, d) := y.magnitude
  ofQuotient? (x.negative != y.negative) (a * c) (b * d)

/-- Quotient at the nearest number of the format; none beyond the largest or by zero. -/
def div? (x y : Binary64) : Option Binary64 :=
  let (a, b) := x.magnitude
  let (c, d) := y.magnitude
  if c = 0 then none else ofQuotient? (x.negative != y.negative) (a * d) (b * c)

/-- The integer part, toward zero. -/
def truncate (x : Binary64) : Int :=
  let (a, b) := x.magnitude
  if x.negative then -((a / b : Nat) : Int) else ((a / b : Nat) : Int)

/-- Whether the number is at least one. -/
def atLeastOne (x : Binary64) : Bool := 1 ≤ x.truncate

end Binary64

/-- The integer part within the unsigned 64-bit range, cut off at its ends. -/
def Binary64.toUInt64Clamped (x : Binary64) : UInt64 :=
  UInt64.ofNat (min x.truncate.toNat (UInt64.size - 1))

/-- The integer part within the signed 64-bit range, cut off at its ends. -/
def Binary64.toInt64Clamped (x : Binary64) : Int64 :=
  Int64.ofInt (max Int64.minValue.toInt (min x.truncate Int64.maxValue.toInt))

end BoostFeed.Number
