import BoostFeed.Number.Binary64

/-! Single precision: positive numbers of 24 binary digits, without regard to the ends of their range. -/

namespace BoostFeed.Number

/-- The number `significand · 2^exponent`. -/
structure Single where
  significand : Nat
  exponent : Int
deriving DecidableEq

namespace Single

/-- The number nearest to a quotient, a tie to the even significand. -/
def ofQuotient (n d : Nat) : Single :=
  let guess : Int := (Nat.log2 n : Int) - (Nat.log2 d : Int) - 23
  let (a, b) := Binary64.scaled n d guess
  let e := if a / b < 8388608 then guess - 1 else guess
  let (a, b) := Binary64.scaled n d e
  ⟨roundDiv a b, e⟩

/-- The number as a quotient of naturals. -/
def magnitude (x : Single) : Nat × Nat :=
  if x.exponent < 0 then (x.significand, Nat.pow 2 (-x.exponent).toNat)
  else (x.significand * Nat.pow 2 x.exponent.toNat, 1)

/-- One in fixed point, with 60 binary places. -/
def fixedOne : Nat := Nat.pow 2 60

/-- The greatest number below `2^bits` more than `root` whose test holds; the test holds up to some number and
fails after. -/
def greatest (holds : Nat → Bool) : Nat → Nat → Nat
  | 0, root => root
  | bits + 1, root =>
    greatest holds bits (if holds (root + Nat.pow 2 bits) then root + Nat.pow 2 bits else root)

/-- The square root of a number from one to two in fixed point. -/
def fixedRoot (x : Nat) : Nat := greatest (fun r => r * r ≤ x * fixedOne) 62 0

/-- Two to the power of `part / 2^places`, which is below one, in fixed point. `root` is two to the power of twice
what the highest of these places counts. -/
def fixedPower (root part : Nat) : Nat → Nat
  | 0 => fixedOne
  | places + 1 =>
    let root := fixedRoot root
    let half := Nat.pow 2 places
    if half ≤ part then root * fixedPower root (part - half) places / fixedOne
    else fixedPower root part places

/-- Two to the power of `x / 2^27`. -/
def twoToPower (x : Int) : Single :=
  let unit : Int := 134217728
  let power := fixedPower (2 * fixedOne) (x % unit).toNat 27
  let (a, b) := Binary64.scaled power fixedOne (-(x / unit))
  ofQuotient a b

end Single

end BoostFeed.Number
