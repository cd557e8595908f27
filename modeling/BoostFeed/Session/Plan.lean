import BoostFeed.Session.Basic

/-! Which page a session asks for next: the priming page around the server's current index, the page above
the highest stored event, the page below the lowest. -/

namespace BoostFeed

open Json

/-- The index that a reading of the index endpoint gives: a number of at least one, or its digits. -/
def Json.Value.index? (raw : Value) : Option UInt64 :=
  let read : Option UInt64 :=
    match raw with
    | .number (.natural n) => some n
    | .number (.negative _) => none
    | .number (.double x) => if x.atLeastOne then some x.toUInt64Clamped else none
    | .string s => Text.uint64? (Text.trimmed s.toList)
    | _ => none
  read.filter (1 ≤ ·)

def Json.Value.isNumber : Value → Bool
  | .number _ => true
  | _ => false

namespace Session

/-- Plans the priming page from a reading of the current index. A usable index is where the session
starts, silently; otherwise history is asked for from its first index on. -/
def planColdStart (s : Session) (raw : Value) : PageRequest × List ViewEffect × Session :=
  match raw.index? with
  | some index =>
    ({ direction := .forward
       query := { index, count := forwardPageSize, old := false }
       play := false
       cursorKnown := true },
     [],
     { s with currentIndex := some index })
  | none =>
    ({ direction := .backfill
       query := { index := 1, count := backfillPageSize, old := true }
       play := false
       cursorKnown := false },
     if raw.isNumber then [] else [.indexUnavailable raw.print],
     { s with currentIndex := none, awaitingFirst := true })

/-- The page above the highest stored event, or from the reported index on. -/
def planForward (s : Session) : PageRequest :=
  let cursor := s.store.highest <|> s.currentIndex
  { direction := .forward
    query := { index := cursor.getD 1, count := forwardPageSize, old := false }
    play := true
    cursorKnown := cursor.isSome }

/-- The page below the lowest stored event, or below the reported index. -/
def planBackfill (s : Session) : PageRequest :=
  let cursor := s.store.lowest <|> s.currentIndex
  { direction := .backfill
    query := match cursor.filter (1 ≤ ·) with
      | some index => { index, count := backfillPageSize, old := true }
      | none => { index := 1, count := backfillPageSize, old := false }
    play := false
    cursorKnown := cursor.isSome }

def plan (s : Session) : Direction → PageRequest
  | .forward => s.planForward
  | .backfill => s.planBackfill

end Session

end BoostFeed
