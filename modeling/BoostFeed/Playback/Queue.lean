import BoostFeed.Playback.Cue

/-! The queue of triggers: one plays at a time, the others wait in the order of their submission. Started
triggers lie in an outbox until the player takes them. -/

namespace BoostFeed.Playback

/-- What became of a submitted trigger; a queued one is told the length of the backlog. -/
inductive Submitted where
  | started
  | queued (backlog : Nat)
deriving DecidableEq

structure Queue where
  /-- A started trigger has not finished. -/
  playing : Bool := false
  /-- Waiting triggers, the next first. -/
  backlog : List Trigger := []
  /-- Started triggers that the player has not taken, in start order. -/
  outbox : List Trigger := []
deriving DecidableEq, Inhabited

namespace Queue

/-- Starts a trigger if nothing plays or waits, else lets it wait. -/
def submit (q : Queue) (t : Trigger) : Submitted × Queue :=
  if q.playing = false ∧ q.backlog = [] then
    (.started, { q with playing := true, outbox := q.outbox ++ [t] })
  else
    let backlog := q.backlog ++ [t]
    (.queued backlog.length, { q with backlog })

def submitAll (q : Queue) (ts : List Trigger) : Queue := ts.foldl (fun q t => (q.submit t).2) q

/-- Starts the next waiting trigger if nothing plays, and tells whether it did. -/
def tick (q : Queue) : Bool × Queue :=
  match q.playing, q.backlog with
  | false, t :: waiting => (true, { playing := true, backlog := waiting, outbox := q.outbox ++ [t] })
  | _, _ => (false, q)

/-- The playing trigger has ended. -/
def finish (q : Queue) : Queue := { q with playing := false }

/-- The player takes what was started. -/
def take (q : Queue) : List Trigger × Queue := (q.outbox, { q with outbox := [] })

end Queue

end BoostFeed.Playback
