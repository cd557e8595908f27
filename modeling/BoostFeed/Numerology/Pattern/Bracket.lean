import BoostFeed.Numerology.Pattern.Escape

/-! Classes in brackets: characters, ranges, named classes, nested classes and the set operations between
them, read with a stack of what is still open. -/

namespace BoostFeed.Numerology.Pattern

/-- A part of a class: its digits, how deeply it nests and the room it takes. -/
structure Part where
  digits : DigitSet
  height : Nat := 0
  room : Nat := 16

inductive SetOperation where
  | intersection
  | difference
  | symmetricDifference

def SetOperation.apply (o : SetOperation) (a b : DigitSet) : DigitSet :=
  match o with
  | .intersection => a &&& b
  | .difference => a &&& ~~~b
  | .symmetricDifference => a ^^^ b

/-- The union of parts. -/
def Part.union : List Part → Part
  | [] => { digits := .none }
  | [p] => p
  | ps => {
      digits := ps.foldl (fun s p => s ||| p.digits) .none
      height := 1 + ps.foldl (fun h p => max h p.height) 0
      room := ps.foldl (fun r p => r + p.room) 0 }

/-- What is open inside a class: a bracket with the parts before it, or an operation with its left
side. -/
inductive ClassFrame where
  | bracket (before : List Part) (negated : Bool)
  | operation (o : SetOperation) (left : Part)

/-- Applies the operation that waits for its right side, if one does. -/
def settle (right : Part) : List ClassFrame → Part × List ClassFrame
  | .operation o left :: frames =>
    ({ digits := o.apply left.digits right.digits
       height := 1 + max left.height right.height
       room := left.room + right.room }, frames)
  | frames => (right, frames)

/-- The classes of POSIX, which know ASCII only. -/
def namedClass? (name : List Char) : Option DigitSet :=
  match String.ofList name with
  | "alnum" | "ascii" | "digit" | "graph" | "print" | "word" | "xdigit" => some .all
  | "alpha" | "blank" | "cntrl" | "lower" | "punct" | "space" | "upper" => some .none
  | _ => none

/-- A class such as `[:digit:]`, from behind its bracket on: its digits, whether it is denied. -/
def posixClass? : List Char → Option ((DigitSet × Bool) × List Char)
  | ':' :: cs =>
    let (negated, cs) := match cs with
      | '^' :: cs => (true, cs)
      | cs => (false, cs)
    match cs.dropWhile (· ≠ ':') with
    | ':' :: ']' :: rest => (namedClass? (cs.takeWhile (· ≠ ':'))).map fun s => ((s, negated), rest)
    | _ => none
  | _ => none

/-- Hyphens at the start of a class stand for themselves. -/
def leadingHyphens (w : Switches) (parts : List Part) : Nat → List Char → Option (List Part × List Char)
  | 0, _ => none
  | fuel + 1, cs =>
    match cs with
    | '-' :: cs => do leadingHyphens w ({ digits := .none } :: parts) fuel (← w.more? cs)
    | cs => some (parts, cs)

/-- The start of a class behind its bracket: whether it is denied, and its first parts. -/
def openClass? (w : Switches) (cs : List Char) : Option (Bool × List Part × List Char) := do
  let cs ← w.more? cs
  let (negated, cs) ←
    match cs with
    | '^' :: cs => (w.more? cs).map (true, ·)
    | cs => some (false, cs)
  let (parts, cs) ← leadingHyphens w [] (cs.length + 1) cs
  match parts, cs with
  | [], ']' :: cs => return (negated, [{ digits := .none }], ← w.more? cs)
  | parts, cs => return (negated, parts, cs)

/-- One end of a range, or a part by itself. -/
def classItem? (w : Switches) : List Char → Option (Escaped × List Char)
  | '\\' :: cs => escape? w cs
  | c :: cs => some (.char c, w.skip cs)
  | [] => none

/-- A character that a class may hold: without Unicode, ASCII alone. -/
def classChar? (w : Switches) : Escaped → Option Char
  | .char c => if w.unicode || c.toNat < 0x80 then some c else none
  | _ => none

def single? (w : Switches) : Escaped → Option Part
  | .char c => (classChar? w (.char c)).map fun c =>
    { digits := .between c.toNat c.toNat, room := if c.toNat < 0x80 then 16 else 64 }
  | .set s => some { digits := s.digits, room := s.room }
  | .edge _ => none

/-- A character, a set or a range. -/
def range? (w : Switches) (cs : List Char) : Option (Part × List Char) := do
  let (first, cs) ← classItem? w cs
  match w.skip cs with
  | [] => none
  | '-' :: rest =>
    if w.peek rest = some ']' || w.peek rest = some '-' then return (← single? w first, '-' :: rest)
    else
      let (last, rest) ← classItem? w (← w.more? rest)
      let low ← classChar? w first
      let high ← classChar? w last
      if low ≤ high then
        return ({ digits := .between low.toNat high.toNat
                  room := if high.toNat < 0x80 then 16 else 700 }, rest)
      else none
  | cs => return (← single? w first, cs)

/-- Reads a class to the bracket that closes it. -/
def classLoop (w : Switches) : Nat → List Part → List ClassFrame → List Char → Option (Part × List Char)
  | 0, _, _, _ => none
  | fuel + 1, parts, frames, cs =>
    let operate := fun (o : SetOperation) (rest : List Char) =>
      let (left, frames) := settle (.union parts) frames
      classLoop w fuel [] (.operation o left :: frames) rest
    match w.skip cs with
    | [] => none
    | '[' :: rest =>
      match posixClass? rest with
      | some ((s, negated), rest) =>
        if negated && !w.unicode then none
        else classLoop w fuel ({ digits := if negated then ~~~s else s } :: parts) frames rest
      | none => do
        let (negated, inner, rest) ← openClass? w rest
        classLoop w fuel inner (.bracket parts negated :: frames) rest
    | ']' :: rest =>
      match settle (.union parts) frames with
      | (whole, .bracket before negated :: frames) =>
        if negated && !w.unicode then none
        else
          let closed : Part := {
            digits := if negated then ~~~whole.digits else whole.digits
            height := 1 + whole.height
            room := whole.room + if negated then 700 else 32 }
          match frames with
          | [] => some (closed, rest)
          | frames => classLoop w fuel (closed :: before) frames rest
      | _ => none
    | '&' :: '&' :: rest => operate .intersection rest
    | '-' :: '-' :: rest => operate .difference rest
    | '~' :: '~' :: rest => operate .symmetricDifference rest
    | cs => do
      let (part, rest) ← range? w cs
      classLoop w fuel (part :: parts) frames rest

/-- A class, from behind its bracket on. -/
def class? (w : Switches) (cs : List Char) : Option (Part × List Char) := do
  let (negated, parts, rest) ← openClass? w cs
  classLoop w (cs.length + 1) parts [.bracket [] negated] rest

end BoostFeed.Numerology.Pattern
