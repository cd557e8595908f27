import BoostFeed.Text.Digits

/-! The decimal digits of a natural number as a list, most significant first. -/

namespace BoostFeed.Number

abbrev Digit := Fin 10

/-- The last digit of a number. -/
def Digit.ofNat (n : Nat) : Digit := Fin.ofNat 10 n

/-- The decimal digits, most significant first; zero has one. -/
def digits (n : Nat) : List Digit := (Text.digitsOf n).map fun c => Digit.ofNat (Text.digitValue c)

/-- The character of a digit. -/
def Digit.char (d : Digit) : Char := Nat.digitChar d.val

/-- The number that a row of digits writes. -/
def ofDigits (ds : List Digit) : Nat := ds.foldl (fun n d => 10 * n + d.val) 0

/-- The digits of a text that has no other characters. -/
def digitsOfText? (s : List Char) : Option (List Digit) :=
  s.mapM fun c => if c.isDigit then some (Digit.ofNat (Text.digitValue c)) else none

end BoostFeed.Number
