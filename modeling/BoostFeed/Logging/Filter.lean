import BoostFeed.Logging.Directive

/-! Log filters: directives between commas. Of those that speak about a record the most specific decides. -/

namespace BoostFeed.Logging

/-- A directive about records outside any span. -/
structure Clause where
  target : Option String
  /-- The fields that a record must have. -/
  fields : List String
  verbosity : Nat
deriving DecidableEq

namespace Clause

/-- The clause that a directive makes. One that names a span or asks for a value makes none. -/
def ofDirective? (d : Directive) : Option Clause :=
  if d.span.isNone && d.fields.all (·.value.isNone) then
    some ⟨d.target, d.fields.map FieldMatch.name, d.verbosity⟩
  else none

/-- Whether a clause speaks about a record: its target starts the record's, and its fields are there. -/
def concerns (c : Clause) (r : Record) : Bool :=
  (c.target.getD "").toList.isPrefixOf r.target.toList &&
    c.fields.all fun name => r.fields.any (·.1 == name)

/-- How specific a target is; no target is the least specific. -/
def targetWeight (c : Clause) : Nat :=
  match c.target with
  | some t => t.utf8ByteSize + 1
  | none => 0

/-- Whether a clause decides before another: the longer target, then more fields. -/
def precedes (a b : Clause) : Bool :=
  b.targetWeight < a.targetWeight ||
    (a.targetWeight == b.targetWeight &&
      (b.fields.length < a.fields.length ||
        (a.fields.length == b.fields.length && !List.lex a.fields b.fields)))

end Clause

/-- The clauses of a filter in the order written. -/
abbrev Filter := List Clause

namespace Filter

/-- The filter that a text writes. -/
def read (text : String) : Except FilterError Filter := do
  let parts := (Text.pieces (· = ',') text.toList).filter (!·.isEmpty)
  return (← parts.mapM Directive.read).filterMap Clause.ofDirective?

/-- The clause that decides about a record; of equally specific ones the last. -/
def deciding? (f : Filter) (r : Record) : Option Clause :=
  (f.filter (·.concerns r)).foldl (fun best c =>
    match best with
    | some b => if c.precedes b then some c else best
    | none => some c) none

/-- Whether a record passes. -/
def passes (f : Filter) (r : Record) : Bool :=
  match f.deciding? r with
  | some c => r.level.verbosity ≤ c.verbosity
  | none => false

end Filter

end BoostFeed.Logging
