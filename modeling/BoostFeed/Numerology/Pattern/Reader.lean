import BoostFeed.Numerology.Pattern.Bracket
import BoostFeed.Text.LetterTable

/-! The written form of patterns: alternatives, groups, repetitions, anchors, classes and escapes, without
look-around and back references. A pattern must nest at most 250 deep and stay within ten mebibytes
of estimated room. -/

namespace BoostFeed.Numerology.Pattern

/-- A read pattern, how deeply its text nests and the room it takes when compiled. -/
structure Piece where
  pattern : Pattern
  height : Nat := 0
  room : Nat := 32

/-- A set of switches stands between pieces like one but cannot be repeated. -/
inductive Element where
  | piece (p : Piece)
  | switches

def Element.piece? : Element → Option Piece
  | .piece p => some p
  | .switches => none

/-- An open group: its alternatives so far and the elements of the current one, last first. -/
structure Level where
  alternatives : List Piece := []
  elements : List Element := []

/-- Pieces in a row. -/
def sequence (elements : List Element) : Piece :=
  let pieces := elements.filterMap Element.piece?
  { pattern := match pieces with
      | [] => .empty
      | p :: ps => ps.foldl (fun a b => .seq a b.pattern) p.pattern
    height := match elements with
      | [] | [_] => pieces.foldl (fun h p => max h p.height) 0
      | _ => 1 + pieces.foldl (fun h p => max h p.height) 0
    room := pieces.foldl (fun r p => r + p.room) 0 }

/-- Ends the current alternative. -/
def Level.split (l : Level) : Level := { alternatives := sequence l.elements.reverse :: l.alternatives }

/-- The pattern of all alternatives. -/
def Level.close (l : Level) : Piece :=
  match l.split.alternatives.reverse with
  | [] => { pattern := .empty }
  | [p] => p
  | p :: ps =>
    { pattern := ps.foldl (fun a b => .alt a b.pattern) p.pattern
      height := 1 + ps.foldl (fun h q => max h q.height) p.height
      room := ps.foldl (fun r q => r + q.room + 32) p.room }

/-- A reader part way: the switches, the names of groups, the current group and the groups around it
with their switches. -/
structure State where
  switches : Switches := {}
  names : List (List Char) := []
  level : Level := {}
  outer : List (Level × Switches) := []

def State.add (s : State) (e : Element) : State :=
  { s with level := { s.level with elements := e :: s.level.elements } }

/-- A piece of one character. -/
def charPiece (c : Char) : Piece :=
  { pattern := .digit (.between c.toNat c.toNat), room := 32 * c.utf8Size }

/-- Repeats the last piece; there must be one. -/
def State.repeatLast? (s : State) (least : Nat) (most : Option Nat) (greedy : Bool) : Option State :=
  match s.level.elements with
  | .piece p :: before =>
    let copies := most.getD (max least 1)
    let p : Piece := {
      pattern := .repeated p.pattern least most (greedy != s.switches.swapped)
      height := 1 + p.height
      room := copies * (p.room + 8) + 72 }
    some { s with level := { s.level with elements := .piece p :: before } }
  | _ => none

/-- A question mark behind a repetition makes it prefer few. -/
def preference : List Char → Bool × List Char
  | '?' :: cs => (false, cs)
  | cs => (true, cs)

def decimalDigits (w : Switches) (read : List Char) : Nat → List Char → List Char × List Char
  | 0, cs => (read.reverse, cs)
  | fuel + 1, cs =>
    match cs with
    | c :: rest => if c.isDigit then decimalDigits w (c :: read) fuel (w.skip rest) else (read.reverse, cs)
    | [] => (read.reverse, [])

/-- Blanks behind a number; in extended form comments between them go too. -/
def blanksAfter (w : Switches) : Nat → List Char → List Char
  | 0, cs => cs
  | fuel + 1, cs =>
    match cs with
    | c :: rest => if Text.isBlank c then blanksAfter w fuel (w.skip rest) else cs
    | [] => []

/-- A number below 2^32 with blanks around it; something must follow. -/
def decimal? (w : Switches) (cs : List Char) : Option (Nat × List Char) := do
  let cs := cs.dropWhile Text.isBlank
  let (ds, rest) := decimalDigits w [] (cs.length + 1) cs
  let n ← Text.digits? ds
  let rest := blanksAfter w (rest.length + 1) rest
  if n < UInt32.size ∧ rest ≠ [] then some (n, rest) else none

/-- The bounds of a repetition, from behind the opening brace to behind the closing one. -/
def bounds? (w : Switches) (cs : List Char) : Option ((Nat × Option Nat) × List Char) := do
  let (least, cs) ← decimal? w (← w.more? cs)
  match cs with
  | ',' :: cs =>
    match ← w.more? cs with
    | '\x7d' :: cs => some ((least, none), cs)
    | cs =>
      let (most, cs) ← decimal? w cs
      match cs with
      | '\x7d' :: cs => if least ≤ most then some ((least, some most), cs) else none
      | _ => none
  | '\x7d' :: cs => some ((least, some least), cs)
  | _ => none

/-- The name of a group, up to the angle that closes it. -/
def groupName? (cs : List Char) : Option (List Char × List Char) :=
  let name := cs.takeWhile (· ≠ '>')
  match name, cs.dropWhile (· ≠ '>') with
  | first :: others, '>' :: rest =>
    let fits := (first = '_' || Text.isLetter first) &&
      others.all fun c => c = '_' || c = '.' || c = '[' || c = ']' || Text.isLetterOrNumeral c
    if fits then some (name, rest) else none
  | _, _ => none

/-- Switches up to the sign that ends them, each named once: what they set, and whether any stood
there. -/
def switchList? (w : Switches) (seen : List Char) (on : Bool) (dangling : Bool) :
    List Char → Option (Switches × Bool × List Char)
  | [] => none
  | c :: cs =>
    if c = ':' ∨ c = ')' then if dangling then none else some (w, !seen.isEmpty, c :: cs)
    else if seen.contains c then none
    else match c with
      | '-' => switchList? w (c :: seen) false true cs
      | 'x' => switchList? { w with extended := on } (c :: seen) on false cs
      | 'u' => switchList? { w with unicode := on } (c :: seen) on false cs
      | 'U' => switchList? { w with swapped := on } (c :: seen) on false cs
      | 'i' | 'm' | 's' | 'R' => switchList? w (c :: seen) on false cs
      | _ => none

/-- Opens a group; inside it the given switches hold. -/
def State.enter (s : State) (w : Switches) : State :=
  { s with switches := w, level := {}, outer := (s.level, s.switches) :: s.outer }

/-- An opening parenthesis, from behind it on: a group, or switches for the rest of this one. -/
def State.open? (s : State) (cs : List Char) : Option (State × List Char) := do
  match s.switches.skip cs with
  | '?' :: '=' :: _ | '?' :: '!' :: _ | '?' :: '<' :: '=' :: _ | '?' :: '<' :: '!' :: _ => none
  | '?' :: 'P' :: '<' :: cs | '?' :: '<' :: cs =>
    let (name, cs) ← groupName? cs
    if s.names.contains name then none
    else some ({ s with names := name :: s.names }.enter s.switches, cs)
  | '?' :: cs =>
    match ← switchList? s.switches [] true false cs with
    | (w, _, ':' :: cs) => some (s.enter w, cs)
    | (w, true, ')' :: cs) => some ({ s with switches := w }.add .switches, cs)
    | _ => none
  | cs => some (s.enter s.switches, cs)

/-- A closing parenthesis. -/
def State.close? (s : State) : Option State :=
  match s.outer with
  | [] => none
  | (level, w) :: outer =>
    let p := s.level.close
    some ({ s with level, switches := w, outer }.add (.piece { p with height := p.height + 1, room := p.room + 64 }))

/-- One element of the written form, from its first sign on. -/
def State.step (s : State) (c : Char) (cs : List Char) : Option (State × List Char) :=
  match c with
  | '(' => s.open? cs
  | ')' => s.close?.map (·, cs)
  | '|' => some ({ s with level := s.level.split }, cs)
  | '[' => (class? s.switches cs).map fun (p, rest) =>
    (s.add (.piece { pattern := .digit p.digits, height := p.height, room := p.room }), rest)
  | '?' => let (greedy, cs) := preference cs; (s.repeatLast? 0 (some 1) greedy).map (·, cs)
  | '*' => let (greedy, cs) := preference cs; (s.repeatLast? 0 none greedy).map (·, cs)
  | '+' => let (greedy, cs) := preference cs; (s.repeatLast? 1 none greedy).map (·, cs)
  | '\x7b' => do
    let ((least, most), cs) ← bounds? s.switches cs
    let (greedy, cs) := preference (s.switches.skip cs)
    return (← s.repeatLast? least most greedy, cs)
  | '.' => if s.switches.unicode then some (s.add (.piece { pattern := .digit .all, room := 700 }), cs) else none
  | '^' => some (s.add (.piece { pattern := .edge .start }), cs)
  | '$' => some (s.add (.piece { pattern := .edge .stop }), cs)
  | '\\' => (escape? s.switches cs).map fun
    | (.char c, rest) => (s.add (.piece (charPiece c)), rest)
    | (.set p, rest) => (s.add (.piece { pattern := .digit p.digits, room := p.room }), rest)
    | (.edge e, rest) => (s.add (.piece { pattern := .edge e }), rest)
  | c => some (s.add (.piece (charPiece c)), cs)

/-- Reads to the end of the text; every element takes at least one character. -/
def State.run (s : State) : Nat → List Char → Option Piece
  | 0, _ => none
  | fuel + 1, cs =>
    match s.switches.skip cs with
    | [] => if s.outer.isEmpty then some s.level.close else none
    | c :: cs =>
      match s.step c cs with
      | some (s, rest) => s.run fuel rest
      | none => none

/-- How deeply a pattern may nest. -/
def maxHeight : Nat := 250

/-- The room a compiled pattern may take. -/
def maxRoom : Nat := 10 * 1024 * 1024

/-- The pattern that a text writes. -/
def read? (text : String) : Option Pattern := do
  let cs := text.toList
  let p ← State.run {} (cs.length + 1) cs
  if p.height ≤ maxHeight ∧ p.room ≤ maxRoom then some p.pattern else none

end BoostFeed.Numerology.Pattern
