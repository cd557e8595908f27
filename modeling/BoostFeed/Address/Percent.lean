/-! Percent encoding of the bytes of a text. Each part of an address has its own set of characters that
are written as they are. -/

namespace BoostFeed.Address

/-- Sets of ASCII characters that are escaped; every other ASCII character stands for itself. -/
inductive EscapeSet where
  | control
  | fragment
  | query
  | specialQuery
  | path
  | userinfo

/-- Whether an ASCII character is escaped. -/
def EscapeSet.has (s : EscapeSet) (c : Char) : Bool :=
  c.toNat < 0x20 || c.toNat == 0x7f ||
    match s with
    | .control => false
    | .fragment => " \"<>\x60".toList.contains c
    | .query => " \"#<>".toList.contains c
    | .specialQuery => " \"#<>'".toList.contains c
    | .path => " \"<>\x60#?\x7b\x7d".toList.contains c
    | .userinfo => " \"<>\x60#?\x7b\x7d/:;=@[\\]^|".toList.contains c

def hexDigit (n : Nat) : Char := (Nat.digitChar n).toUpper

/-- A percent sign and two hexadecimal digits in capitals. -/
def escapeByte (b : UInt8) : List Char := ['%', hexDigit (b.toNat / 16), hexDigit (b.toNat % 16)]

def encodeChar (s : EscapeSet) (c : Char) : List Char :=
  if c.toNat < 0x80 then (if s.has c then escapeByte c.toNat.toUInt8 else [c])
  else (String.singleton c).toUTF8.toList.flatMap escapeByte

/-- The text with the characters of the set and all beyond ASCII escaped. -/
def encode (s : EscapeSet) (cs : List Char) : List Char := cs.flatMap (encodeChar s)

def hexValue? (c : Char) : Option Nat :=
  if c.isDigit then some (c.toNat - '0'.toNat)
  else if 'a' ≤ c ∧ c ≤ 'f' then some (c.toNat - 'a'.toNat + 10)
  else if 'A' ≤ c ∧ c ≤ 'F' then some (c.toNat - 'A'.toNat + 10)
  else none

/-- The bytes of a text with its escapes undone; a percent sign without two digits stands for itself. -/
def decodeBytes : List Char → List UInt8
  | [] => []
  | '%' :: a :: b :: cs =>
    match hexValue? a, hexValue? b with
    | some x, some y => (16 * x + y).toUInt8 :: decodeBytes cs
    | _, _ => '%'.toNat.toUInt8 :: decodeBytes (a :: b :: cs)
  | c :: cs => (String.singleton c).toUTF8.toList ++ decodeBytes cs

/-- The text that the decoded bytes are in UTF-8. -/
def decode? (cs : List Char) : Option (List Char) :=
  (String.fromUTF8? (decodeBytes cs).toByteArray).map String.toList

/-- A text in a form: a blank becomes a plus, letters, digits and four signs stay. -/
def formEncode (s : String) : String :=
  String.ofList <| s.toUTF8.toList.flatMap fun b =>
    let c := Char.ofNat b.toNat
    if b.toNat = 0x20 then ['+']
    else if b.toNat < 0x80 && (c.isAlphanum || c = '*' || c = '-' || c = '.' || c = '_') then [c]
    else escapeByte b

/-- Names and values of a form. -/
def formText (pairs : List (String × String)) : String :=
  "&".intercalate (pairs.map fun (k, v) => formEncode k ++ "=" ++ formEncode v)

end BoostFeed.Address
