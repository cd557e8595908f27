import BoostFeed.Numerology.BuiltIn

/-! Annotations of amounts. Matching equalities stand alone. Otherwise the comparisons that hold come
first, in rule order, then the places where patterns were found, from left to right; a digit is used
by one pattern only, and earlier rules choose first. -/

namespace BoostFeed.Numerology

open BoostFeed.Number (Digit)

/-- The decoration of an amount. -/
structure Annotation where
  glyphs : String := ""
  /-- The names of the rules that matched, each once. -/
  tooltip : String := ""
  soundFiles : List String := []
deriving DecidableEq

def Annotation.isEmpty (a : Annotation) : Bool := a.glyphs.isEmpty && a.tooltip.isEmpty

/-- The digits of an amount; those used by a pattern are gone. -/
abbrev Slots := List (Option Digit)

/-- The stretches of unused digits with the places where they start. A stretch part way is last first. -/
def runsFrom (place : Nat) (run : List Digit) : Slots → List (Nat × List Digit)
  | [] => if run.isEmpty then [] else [(place - run.length, run.reverse)]
  | some d :: slots => runsFrom (place + 1) (d :: run) slots
  | none :: slots =>
    (if run.isEmpty then [] else [(place - run.length, run.reverse)]) ++ runsFrom (place + 1) [] slots

/-- The stretches of unused digits, from left to right. -/
def runs (slots : Slots) : List (Nat × List Digit) := runsFrom 0 [] slots

/-- A stretch of digits that a pattern uses. -/
structure Span where
  start : Nat
  stop : Nat
deriving DecidableEq

/-- Where a pattern is found in the unused digits. Each run is searched on its own. -/
def findSpans (p : Pattern) (slots : Slots) : List Span :=
  (runs slots).flatMap fun (offset, run) => (p.spans run).map fun (a, b) => ⟨offset + a, offset + b⟩

/-- The slots once the digits of a span are used. -/
def use (slots : Slots) (s : Span) : Slots :=
  slots.mapIdx fun i d => if s.start ≤ i ∧ i < s.stop then none else d

/-- A rule found at a place. -/
structure PatternHit where
  rule : Rule
  span : Span

/-- The places where the patterns of the rules are found, rule by rule. -/
def patternHits : List Rule → Slots → List PatternHit
  | [], _ => []
  | r :: rs, slots =>
    match r.predicate with
    | .compare _ _ => patternHits rs slots
    | .pattern _ p =>
      let spans := findSpans p slots
      spans.map (⟨r, ·⟩) ++ patternHits rs (spans.foldl use slots)

/-- Whether a rule compares and its comparison holds. -/
def Rule.compares (r : Rule) (amount : UInt64) : Bool :=
  match r.predicate with
  | .compare c bound => c.holds amount bound
  | .pattern _ _ => false

/-- The digits of an amount, all unused. -/
def slotsOf (amount : UInt64) : Slots := (BoostFeed.Number.digits amount.toNat).map some

/-- The rules that decorate an amount in the order of their glyphs. -/
def hits (rules : List Rule) (amount : UInt64) : List Rule :=
  let equalities := rules.filter fun r => r.isEquality && r.compares amount
  if equalities.isEmpty then
    rules.filter (·.compares amount) ++
      ((patternHits rules (slotsOf amount)).mergeSort fun a b => a.span.start ≤ b.span.start).map
        PatternHit.rule
  else equalities

/-- The decoration by rules in this order: every glyph, and each name and sound file once. -/
def Annotation.ofHits (rs : List Rule) : Annotation where
  glyphs := String.join (rs.map Rule.emoji)
  tooltip := ", ".intercalate (rs.map Rule.name).eraseDups
  soundFiles := (rs.filterMap Rule.soundFile).eraseDups

/-- The decoration of an amount in sats. -/
def annotate (rules : List Rule) (amount : UInt64) : Annotation := .ofHits (hits rules amount)

end BoostFeed.Numerology
