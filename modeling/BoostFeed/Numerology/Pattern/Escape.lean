import BoostFeed.Numerology.Pattern.Property
import BoostFeed.Text.Blank

/-! Escapes of the written form of patterns, and the blanks and comments between its signs. Every reader
takes the text from its first sign on and returns what stands behind what it read. -/

namespace BoostFeed.Numerology.Pattern

open Text (isBlank)

/-- The switches of the written form that matter for digits. -/
structure Switches where
  /-- Blanks and comments do not count. -/
  extended : Bool := false
  /-- Classes are sets of characters and not of bytes. -/
  unicode : Bool := true
  /-- Repetitions prefer few and, with a question mark, many. -/
  swapped : Bool := false

/-- Drops blanks and comments; a comment runs from `#` to the end of its line. -/
def dropBlanks (inComment : Bool) : List Char → List Char
  | [] => []
  | c :: cs =>
    if inComment then dropBlanks (c != '\n') cs
    else if isBlank c then dropBlanks false cs
    else if c = '#' then dropBlanks true cs
    else c :: cs

/-- What follows, in extended form without the blanks and comments before it. -/
def Switches.skip (w : Switches) (cs : List Char) : List Char :=
  if w.extended then dropBlanks false cs else cs

/-- What follows, if anything does. -/
def Switches.more? (w : Switches) (cs : List Char) : Option (List Char) :=
  match w.skip cs with
  | [] => none
  | cs => some cs

/-- The character that decides whether a hyphen makes a range. -/
def Switches.peek (w : Switches) (cs : List Char) : Option Char :=
  if w.extended then
    match cs.dropWhile isBlank with
    | '#' :: rest => ((rest.dropWhile isBlank) ++ cs).head?
    | rest => (rest ++ cs).head?
  else cs.head?

/-- A set of characters as far as digits tell, with an estimate of the room it takes when compiled. -/
structure CharSet where
  digits : DigitSet
  room : Nat

/-- What an escape stands for. -/
inductive Escaped where
  | char (c : Char)
  | set (s : CharSet)
  | edge (e : Edge)

def hexValue? (c : Char) : Option Nat :=
  if c.isDigit then some (Text.digitValue c)
  else if 'a' ≤ c ∧ c ≤ 'f' then some (c.toNat - 'a'.toNat + 10)
  else if 'A' ≤ c ∧ c ≤ 'F' then some (c.toNat - 'A'.toNat + 10)
  else none

/-- The character with a code point. -/
def charOf? (n : Nat) : Option Char := if n.isValidChar then some (Char.ofNat n) else none

/-- So many hexadecimal digits. -/
def hexDigits? (w : Switches) (value : Nat) : Nat → List Char → Option (Nat × List Char)
  | 0, cs => some (value, cs)
  | n + 1, cs => do
    match w.skip cs with
    | [] => none
    | c :: cs => hexDigits? w (16 * value + (← hexValue? c)) n cs

/-- Hexadecimal digits up to a closing brace. -/
def hexBraced? (w : Switches) (read : List Nat) : Nat → List Char → Option (List Nat × List Char)
  | 0, _ => none
  | fuel + 1, cs =>
    match w.skip cs with
    | [] => none
    | '\x7d' :: cs => some (read.reverse, w.skip cs)
    | c :: cs => do hexBraced? w ((← hexValue? c) :: read) fuel cs

/-- A character by its code point: so many digits, or any number of them in braces. -/
def hexEscape? (w : Switches) (digits : Nat) (cs : List Char) : Option (Char × List Char) := do
  match ← w.more? cs with
  | '\x7b' :: cs =>
    let (ds, rest) ← hexBraced? w [] (cs.length + 1) cs
    let n := ds.foldl (fun n d => 16 * n + d) 0
    if ds = [] ∨ UInt32.size ≤ n then none else some (← charOf? n, rest)
  | cs =>
    let (n, rest) ← hexDigits? w 0 digits cs
    let c ← charOf? n
    if digits = 2 ∧ !w.unicode ∧ 0x80 ≤ n then none else some (c, w.skip rest)

/-- The name of a property up to a closing brace. -/
def bracedName? (w : Switches) (read : List Char) : Nat → List Char → Option (List Char × List Char)
  | 0, _ => none
  | fuel + 1, cs =>
    match w.skip cs with
    | [] => none
    | '\x7d' :: cs => some (read.reverse, cs)
    | c :: cs => bracedName? w (c :: read) fuel cs

/-- Cuts a text at the first place where the mark stands. -/
def cutAt (mark : List Char) : List Char → Option (List Char × List Char)
  | [] => none
  | c :: cs =>
    if mark.isPrefixOf (c :: cs) then some ([], (c :: cs).drop mark.length)
    else (cutAt mark cs).map fun (a, b) => (c :: a, b)

/-- The digits with a property, and whether the name itself denies it. -/
def property? (name : List Char) : Option (DigitSet × Bool) :=
  match cutAt ['!', '='] name with
  | some (n, v) => (Property.withValue? n v).map (·, true)
  | none =>
    match cutAt [':'] name with
    | some (n, v) => (Property.withValue? n v).map (·, false)
    | none =>
      match cutAt ['='] name with
      | some (n, v) => (Property.withValue? n v).map (·, false)
      | none => (Property.named? name).map (·, false)

def propertyEscape? (w : Switches) (negated : Bool) (cs : List Char) : Option (CharSet × List Char) := do
  if !w.unicode then none
  let cs ← w.more? cs
  let (name, rest) ←
    match cs with
    | '\x7b' :: cs => bracedName? w [] (cs.length + 1) cs
    | '\\' :: _ => none
    | c :: cs => some ([c], w.skip cs)
    | [] => none
  let (digits, denied) ← property? name
  some (⟨if negated != denied then ~~~digits else digits, 20000⟩, rest)

/-- Digits, blanks and word characters, or with a capital their complements. -/
def classEscape? (w : Switches) (c : Char) : Option CharSet :=
  let room := fun (n : Nat) => if w.unicode then n else 64
  match c with
  | 'd' => some ⟨.all, room 5000⟩
  | 's' => some ⟨.none, room 1000⟩
  | 'w' => some ⟨.all, room 50000⟩
  | 'D' => if w.unicode then some ⟨.none, 5000⟩ else none
  | 'S' => if w.unicode then some ⟨.all, 1000⟩ else none
  | 'W' => if w.unicode then some ⟨.none, 50000⟩ else none
  | _ => none

/-- The name in braces behind `\b`. None if it is not followed by a name, which is then no fault. -/
def edgeName? (w : Switches) (cs : List Char) : Option (Option (List Char × List Char)) :=
  let inName := fun (c : Char) => c.isAlpha || c == '-'
  let rec read (name : List Char) : Nat → List Char → Option (List Char × List Char)
    | 0, _ => none
    | fuel + 1, cs =>
      match cs with
      | '\x7d' :: cs => some (name.reverse, cs)
      | c :: cs => if inName c then read (c :: name) fuel (w.skip cs) else none
      | [] => none
  match w.skip cs with
  | [] => none
  | c :: cs => if inName c then (read [] (cs.length + 2) (c :: cs)).map some else some none

/-- A place at the edge of a word. Runs are words, so these are the edges of the run. -/
def wordEdge? (w : Switches) (cs : List Char) : Option (Edge × List Char) :=
  match cs with
  | '\x7b' :: inside =>
    match edgeName? w inside with
    | none => none
    | some none => some (.either, cs)
    | some (some (name, rest)) =>
      match String.ofList name with
      | "start" | "start-half" => some (.start, rest)
      | "end" | "end-half" => some (.stop, rest)
      | _ => none
  | _ => some (.either, cs)

/-- Signs with a meaning of their own, which an escape takes away. -/
def isSign (c : Char) : Bool := "\\.+*?()|[]\x7b\x7d^$#&-~".toList.contains c

/-- An escape, from the character behind the backslash on. -/
def escape? (w : Switches) : List Char → Option (Escaped × List Char)
  | [] => none
  | c :: cs =>
    match c with
    | 'x' => (hexEscape? w 2 cs).map fun (c, cs) => (.char c, cs)
    | 'u' => (hexEscape? w 4 cs).map fun (c, cs) => (.char c, cs)
    | 'U' => (hexEscape? w 8 cs).map fun (c, cs) => (.char c, cs)
    | 'p' => (propertyEscape? w false cs).map fun (s, cs) => (.set s, cs)
    | 'P' => (propertyEscape? w true cs).map fun (s, cs) => (.set s, cs)
    | 'd' | 's' | 'w' | 'D' | 'S' | 'W' => (classEscape? w c).map fun s => (.set s, cs)
    | 'a' => some (.char '\x07', cs)
    | 'f' => some (.char '\x0c', cs)
    | 't' => some (.char '\t', cs)
    | 'n' => some (.char '\n', cs)
    | 'r' => some (.char '\r', cs)
    | 'v' => some (.char '\x0b', cs)
    | 'A' => some (.edge .start, cs)
    | 'z' => some (.edge .stop, cs)
    | 'b' => (wordEdge? w cs).map fun (e, cs) => (.edge e, cs)
    | 'B' => some (.edge .neither, cs)
    | '<' => some (.edge .start, cs)
    | '>' => some (.edge .stop, cs)
    | c =>
      if isSign c || (c.toNat < 0x80 && !c.isAlphanum) then some (.char c, cs) else none

end BoostFeed.Numerology.Pattern
