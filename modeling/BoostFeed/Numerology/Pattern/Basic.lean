import BoostFeed.Number.Digits

/-! Patterns that are looked for inside a run of decimal digits. A pattern gives, for every place of a
run, the places where its matches that start there end, the preferred one first. -/

namespace BoostFeed.Numerology

open BoostFeed.Number (Digit)

/-- A set of decimal digits. -/
abbrev DigitSet := BitVec 10

namespace DigitSet

def all : DigitSet := BitVec.allOnes 10

def none : DigitSet := 0#10

def single (d : Digit) : DigitSet := BitVec.twoPow 10 d.val

def has (s : DigitSet) (d : Digit) : Bool := s.getLsbD d.val

/-- The digits whose characters lie between two code points, both included. -/
def between (low high : Nat) : DigitSet :=
  (List.finRange 10).foldl
    (fun s d => if low ≤ 48 + d.val ∧ 48 + d.val ≤ high then s ||| single d else s) none

end DigitSet

/-- Conditions on a place in a run: before its first digit, after its last, one of the two, none. -/
inductive Edge where
  | start
  | stop
  | either
  | neither
deriving DecidableEq

/-- Whether the condition holds at a place of a run with so many digits. -/
def Edge.holds (size place : Nat) : Edge → Bool
  | .start => place == 0
  | .stop => place == size
  | .either => place == 0 || place == size
  | .neither => place != 0 && place != size

/-- A regular expression over decimal digits. -/
inductive Pattern where
  | empty
  | digit (allowed : DigitSet)
  | edge (e : Edge)
  | seq (first second : Pattern)
  | alt (preferred other : Pattern)
  | repeated (body : Pattern) (least : Nat) (most : Option Nat) (greedy : Bool)

namespace Pattern

/-- Where matches end, by the place where they start; preferred ends first, each once. -/
abbrev Ends := List (List Nat)

def Ends.at (t : Ends) (place : Nat) : List Nat := t.getD place []

/-- Every place ends where it starts. -/
def Ends.stay (size : Nat) : Ends := (List.range (size + 1)).map ([·])

/-- One match after another. -/
def Ends.andThen (t u : Ends) : Ends := t.map fun ends => (ends.flatMap u.at).eraseDups

/-- Matches of the first kind are preferred. -/
def Ends.orElse (t u : Ends) : Ends := List.zipWith (fun a b => (a ++ b).eraseDups) t u

/-- Exactly so many matches in a row. -/
def Ends.times (size : Nat) (t : Ends) : Nat → Ends
  | 0 => stay size
  | n + 1 => (times size t n).andThen t

/-- At most so many matches in a row; greedy means one more is preferred to none. -/
def Ends.upTo (size : Nat) (t : Ends) (greedy : Bool) : Nat → Ends
  | 0 => stay size
  | n + 1 =>
    let more := t.andThen (upTo size t greedy n)
    if greedy then more.orElse (stay size) else (stay size).orElse more

/-- At least one match in a row, for the last so many places of the run. An empty match ends the
row. -/
def Ends.manyFrom (size : Nat) (t : Ends) (greedy : Bool) : Nat → Ends
  | 0 => []
  | n + 1 =>
    let later := manyFrom size t greedy n
    let place := size - n
    let row := (t.at place).flatMap fun q =>
      if q ≤ place then [place]
      else if greedy then later.at (q - place - 1) ++ [q]
      else q :: later.at (q - place - 1)
    row.eraseDups :: later

/-- At least one match in a row. -/
def Ends.many (size : Nat) (t : Ends) (greedy : Bool) : Ends := manyFrom size t greedy (size + 1)

/-- Where the matches of a pattern end in a run. -/
def ends (run : List Digit) : Pattern → Ends
  | .empty => .stay run.length
  | .digit allowed => (List.range (run.length + 1)).map fun p =>
    match run[p]? with
    | some d => if allowed.has d then [p + 1] else []
    | none => []
  | .edge e => (List.range (run.length + 1)).map fun p => if e.holds run.length p then [p] else []
  | .seq a b => (a.ends run).andThen (b.ends run)
  | .alt a b => (a.ends run).orElse (b.ends run)
  | .repeated a least most greedy =>
    let t := a.ends run
    match most with
    | some most => (t.times run.length least).andThen (t.upTo run.length greedy (most - least))
    | none =>
      let many := t.many run.length greedy
      match least with
      | 0 =>
        if greedy then many.orElse (.stay run.length) else (Ends.stay run.length).orElse many
      | n + 1 => (t.times run.length n).andThen many

/-- Looks at so many places in turn, from the given one; a match is skipped over, an empty one is
none. -/
def spansFrom (t : Ends) (place : Nat) : Nat → List (Nat × Nat)
  | 0 => []
  | n + 1 =>
    match (t.at place).head? with
    | some stop => if place < stop then (place, stop) :: spansFrom t stop n else spansFrom t (place + 1) n
    | none => spansFrom t (place + 1) n

/-- The non-empty matches in a run from left to right, none overlapping: start and end places. -/
def spans (p : Pattern) (run : List Digit) : List (Nat × Nat) :=
  spansFrom (p.ends run) 0 (run.length + 1)

/-- The pattern of a row of digits. -/
def literal : List Digit → Pattern
  | [] => .empty
  | d :: ds => .seq (.digit (.single d)) (literal ds)

end Pattern

end BoostFeed.Numerology
