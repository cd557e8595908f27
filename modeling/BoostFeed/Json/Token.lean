import BoostFeed.Json.Numeral

/-! The tokens of a JSON text and their scanner, an automaton over characters. Surrogate escapes may
stand alone here: a string that holds one is scanned, but has no text. -/

namespace BoostFeed.Json

/-- A token; a string is `none` if a surrogate stands alone in it. -/
inductive Token where
  | openArray
  | closeArray
  | openObject
  | closeObject
  | comma
  | colon
  | null
  | bool (b : Bool)
  | number (n : Numeral)
  | string (s : Option String)
deriving DecidableEq

/-- A string part way: its characters, last first, and a first surrogate that waits for its second. -/
structure Quoted where
  text : Option (List Char)
  high : Option Nat

namespace Quoted

def isHigh (u : Nat) : Bool := 0xD800 ≤ u && u < 0xDC00

def isLow (u : Nat) : Bool := 0xDC00 ≤ u && u < 0xE000

/-- The character that two surrogates stand for. -/
def pair (high low : Nat) : Char := Char.ofNat (0x10000 + (high - 0xD800) * 0x400 + (low - 0xDC00))

def char (q : Quoted) (c : Char) : Quoted :=
  match q.high with
  | some _ => ⟨none, none⟩
  | none => ⟨q.text.map (c :: ·), none⟩

/-- An escaped code unit. -/
def unit (q : Quoted) (u : Nat) : Quoted :=
  match q.high with
  | some h => if isLow u then ⟨q.text.map (pair h u :: ·), none⟩ else ⟨none, none⟩
  | none =>
    if isHigh u then ⟨q.text, some u⟩ else if isLow u then ⟨none, none⟩ else q.char (Char.ofNat u)

def close (q : Quoted) : Option String :=
  match q.high with
  | some _ => none
  | none => q.text.map fun cs => String.ofList cs.reverse

end Quoted

/-- What of a numeral was read last. -/
inductive NumeralSpot where
  | sign
  | zero
  | whole
  | point
  | fraction
  | mark
  | markSign
  | exponent
deriving DecidableEq

/-- A numeral part way; the places are last first. -/
structure NumeralDraft where
  spot : NumeralSpot
  negative : Bool := false
  whole : Nat := 0
  fraction : List BoostFeed.Number.Digit := []
  exponentNegative : Bool := false
  exponent : Nat := 0

namespace NumeralDraft

def digit (d : NumeralDraft) (v : Nat) : Option NumeralDraft :=
  match d.spot with
  | .sign => some { d with spot := if v = 0 then .zero else .whole, whole := v }
  | .zero => none
  | .whole => some { d with whole := 10 * d.whole + v }
  | .point | .fraction => some { d with spot := .fraction, fraction := .ofNat v :: d.fraction }
  | .mark | .markSign | .exponent => some { d with spot := .exponent, exponent := 10 * d.exponent + v }

/-- Whether the numeral may end here. -/
def complete (d : NumeralDraft) : Bool :=
  match d.spot with
  | .zero | .whole | .fraction | .exponent => true
  | .sign | .point | .mark | .markSign => false

/-- One more character, if the numeral can go on with it. -/
def next (d : NumeralDraft) (c : Char) : Option NumeralDraft :=
  if c.isDigit then d.digit (Text.digitValue c)
  else match c, d.spot with
    | '.', .zero | '.', .whole => some { d with spot := .point }
    | 'e', .zero | 'e', .whole | 'e', .fraction => some { d with spot := .mark }
    | 'E', .zero | 'E', .whole | 'E', .fraction => some { d with spot := .mark }
    | '+', .mark => some { d with spot := .markSign }
    | '-', .mark => some { d with spot := .markSign, exponentNegative := true }
    | _, _ => none

def finish (d : NumeralDraft) : Numeral where
  negative := d.negative
  whole := d.whole
  fraction := d.fraction.reverse
  exponent :=
    if d.spot = .exponent then some (if d.exponentNegative then -(d.exponent : Int) else d.exponent)
    else none

end NumeralDraft

/-- Where in a token the scanner stands. -/
inductive ScanSpot where
  | between
  | word (rest : List Char) (token : Token)
  | quoted (q : Quoted)
  | escape (q : Quoted)
  | hex (q : Quoted) (left : Nat) (value : Nat)
  | number (d : NumeralDraft)

/-- The scanner: where it stands, and the tokens so far, last first. -/
structure Scanner where
  spot : ScanSpot
  tokens : List Token

namespace Scanner

def start : Scanner := ⟨.between, []⟩

def hexValue? (c : Char) : Option Nat :=
  if c.isDigit then some (Text.digitValue c)
  else if 'a' ≤ c ∧ c ≤ 'f' then some (c.toNat - 'a'.toNat + 10)
  else if 'A' ≤ c ∧ c ≤ 'F' then some (c.toNat - 'A'.toNat + 10)
  else none

/-- The character a one-letter escape writes. -/
def escaped? : Char → Option Char
  | '"' => some '"'
  | '\\' => some '\\'
  | '/' => some '/'
  | 'b' => some '\x08'
  | 'f' => some '\x0c'
  | 'n' => some '\n'
  | 'r' => some '\r'
  | 't' => some '\t'
  | _ => none

/-- A character where a token may begin. -/
def begin (ts : List Token) (c : Char) : Option Scanner :=
  match c with
  | ' ' | '\t' | '\n' | '\r' => some ⟨.between, ts⟩
  | '[' => some ⟨.between, .openArray :: ts⟩
  | ']' => some ⟨.between, .closeArray :: ts⟩
  | '\x7b' => some ⟨.between, .openObject :: ts⟩
  | '\x7d' => some ⟨.between, .closeObject :: ts⟩
  | ',' => some ⟨.between, .comma :: ts⟩
  | ':' => some ⟨.between, .colon :: ts⟩
  | 'n' => some ⟨.word ['u', 'l', 'l'] .null, ts⟩
  | 't' => some ⟨.word ['r', 'u', 'e'] (.bool true), ts⟩
  | 'f' => some ⟨.word ['a', 'l', 's', 'e'] (.bool false), ts⟩
  | '"' => some ⟨.quoted ⟨some [], none⟩, ts⟩
  | '-' => some ⟨.number { spot := .sign, negative := true }, ts⟩
  | c => if c.isDigit then (NumeralDraft.digit { spot := .sign } (Text.digitValue c)).map (⟨.number ·, ts⟩) else none

/-- One character more. -/
def step (s : Scanner) (c : Char) : Option Scanner :=
  match s.spot with
  | .between => begin s.tokens c
  | .word rest token =>
    match rest with
    | [] => none
    | [d] => if c = d then some ⟨.between, token :: s.tokens⟩ else none
    | d :: rest => if c = d then some ⟨.word rest token, s.tokens⟩ else none
  | .quoted q =>
    if c = '"' then some ⟨.between, .string q.close :: s.tokens⟩
    else if c = '\\' then some ⟨.escape q, s.tokens⟩
    else if c.toNat < 0x20 then none
    else some ⟨.quoted (q.char c), s.tokens⟩
  | .escape q =>
    if c = 'u' then some ⟨.hex q 3 0, s.tokens⟩
    else (escaped? c).map fun d => ⟨.quoted (q.char d), s.tokens⟩
  | .hex q left value =>
    (hexValue? c).map fun v =>
      match left with
      | 0 => ⟨.quoted (q.unit (16 * value + v)), s.tokens⟩
      | left + 1 => ⟨.hex q left (16 * value + v), s.tokens⟩
  | .number d =>
    match d.next c with
    | some d => some ⟨.number d, s.tokens⟩
    | none => if d.complete then begin (.number d.finish :: s.tokens) c else none

/-- The tokens at the end of the text, in order. -/
def finish (s : Scanner) : Option (List Token) :=
  match s.spot with
  | .between => some s.tokens.reverse
  | .number d => if d.complete then some (Token.number d.finish :: s.tokens).reverse else none
  | _ => none

end Scanner

namespace Token

/-- The tokens of a text, if it consists of tokens and blanks. -/
def scan (cs : List Char) : Option (List Token) :=
  (cs.foldlM Scanner.step Scanner.start).bind Scanner.finish

/-- Four hexadecimal digits. -/
def hex4 (n : Nat) : List Char :=
  [n / 4096 % 16, n / 256 % 16, n / 16 % 16, n % 16].map Nat.digitChar

/-- A character inside quotes. -/
def printChar (c : Char) : List Char :=
  match c with
  | '"' => ['\\', '"']
  | '\\' => ['\\', '\\']
  | '\x08' => ['\\', 'b']
  | '\x0c' => ['\\', 'f']
  | '\n' => ['\\', 'n']
  | '\r' => ['\\', 'r']
  | '\t' => ['\\', 't']
  | c => if c.toNat < 0x20 then '\\' :: 'u' :: hex4 c.toNat else [c]

/-- A string without text is written as a surrogate that stands alone. -/
def printString : Option String → List Char
  | some s => '"' :: s.toList.flatMap printChar ++ ['"']
  | none => '"' :: '\\' :: 'u' :: hex4 0xD800 ++ ['"']

def print : Token → List Char
  | .openArray => ['[']
  | .closeArray => [']']
  | .openObject => ['\x7b']
  | .closeObject => ['\x7d']
  | .comma => [',']
  | .colon => [':']
  | .null => ['n', 'u', 'l', 'l']
  | .bool true => ['t', 'r', 'u', 'e']
  | .bool false => ['f', 'a', 'l', 's', 'e']
  | .number n => n.print
  | .string s => printString s

end Token

end BoostFeed.Json
