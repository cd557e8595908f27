/-! Whole numbers in decimal digits: reading with an optional sign and a bound, as command lines and
settings write them. -/

namespace BoostFeed.Text

/-- What a decimal digit counts. -/
def digitValue (c : Char) : Nat := c.toNat - '0'.toNat

/-- The number a non-empty row of ASCII digits writes; leading zeros are allowed. -/
def digits? : List Char → Option Nat
  | [] => none
  | cs => if cs.all Char.isDigit then some (cs.foldl (fun n c => 10 * n + digitValue c) 0) else none

/-- A number without sign or with one plus. -/
def natural? : List Char → Option Nat
  | '+' :: cs => digits? cs
  | cs => digits? cs

/-- A number without sign, or with one plus or minus. -/
def integer? : List Char → Option Int
  | '-' :: cs => (digits? cs).map fun n => -(n : Int)
  | cs => (natural? cs).map Int.ofNat

/-- A 64-bit number without minus. -/
def uint64? (cs : List Char) : Option UInt64 :=
  (natural? cs).bind fun n => if n < UInt64.size then some (UInt64.ofNat n) else none

/-- A signed 64-bit number. -/
def int64? (cs : List Char) : Option Int64 :=
  (integer? cs).bind fun n =>
    if Int64.minValue.toInt ≤ n ∧ n ≤ Int64.maxValue.toInt then some (Int64.ofInt n) else none

/-- The decimal digits of a number, most significant first. -/
def digitsOf (n : Nat) : List Char := Nat.toDigits 10 n

end BoostFeed.Text
