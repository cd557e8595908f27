import BoostFeed.Playback.Queue

/-! A queue with its player under a clock in milliseconds. All cues of a trigger start at once; the
trigger ends when the last of them has, whatever they did. -/

namespace BoostFeed.Playback

/-- How the playback of a cue ends. -/
inductive Ending where
  | finished
  | failed
  | aborted
deriving DecidableEq

/-- How long each cue is held and how it ends; no duration means it never ends. -/
structure Player where
  hold : Cue → Option Nat
  ending : Cue → Ending := fun _ => .finished

/-- Holds every sound for the same time and every note for its duration. -/
def Player.silent (soundHold : Nat) : Player where
  hold
    | .sound _ => some soundHold
    | .note n => some n.duration.toNat

/-- How long the silent player holds a sound if not told otherwise. -/
def defaultSoundHold : Nat := 750

/-- A cue that was started: when, until when, and how it ends. -/
structure Performance where
  cue : Cue
  start : Nat
  stop : Option Nat
  ending : Ending

/-- Whether a cue still plays at an instant. -/
def Performance.playsAt (p : Performance) (now : Nat) : Bool :=
  match p.stop with
  | some stop => now < stop
  | none => true

/-- A periodic tick: when it comes next. -/
structure Metronome where
  next : Nat
  period : Nat

structure Stage where
  now : Nat := 0
  queue : Queue := {}
  /-- All cues started so far, in start order. -/
  performances : List Performance := []
  metronome : Option Metronome := none

namespace Stage

/-- The player takes what the queue started, and the queue learns when all cues have ended. -/
def settle (s : Stage) (player : Player) : Stage :=
  let (started, queue) := s.queue.take
  let begun := (started.flatMap Trigger.cues).map fun cue =>
    ⟨cue, s.now, (player.hold cue).map (s.now + ·), player.ending cue⟩
  let performances := s.performances ++ begun
  { s with
    performances
    queue := if performances.any (·.playsAt s.now) then queue else queue.finish }

def submit (s : Stage) (player : Player) (t : Trigger) : Submitted × Stage :=
  let (answer, queue) := s.queue.submit t
  (answer, { s with queue }.settle player)

def tick (s : Stage) (player : Player) : Bool × Stage :=
  let (answer, queue) := s.queue.tick
  (answer, { s with queue }.settle player)

/-- Ticks at once and then every period. -/
def schedule (s : Stage) (player : Player) (period : Nat) : Stage :=
  { (s.tick player).2 with metronome := some ⟨s.now + period, period⟩ }

def stopSchedule (s : Stage) : Stage := { s with metronome := none }

/-- The next instant at which a cue ends or a tick is due. -/
def nextInstant (s : Stage) : Option Nat :=
  let stops := s.performances.filterMap fun p => p.stop.filter (s.now < ·)
  let ticks := (s.metronome.map Metronome.next).toList
  (stops ++ ticks).min?

/-- Moves to an instant at which something is due. -/
def reach (s : Stage) (player : Player) (instant : Nat) : Stage :=
  let s := { s with now := instant }.settle player
  match s.metronome with
  | some m =>
    if m.next ≤ instant then { (s.tick player).2 with metronome := some { m with next := m.next + m.period } }
    else s
  | none => s

/-- Moves to the given instant through everything that is due up to it. -/
def waitUntil (s : Stage) (player : Player) (target : Nat) : Nat → Stage
  | 0 => s
  | fuel + 1 =>
    match s.nextInstant with
    | some instant =>
      if instant ≤ target then (s.reach player instant).waitUntil player target fuel
      else { s with now := target }
    | none => { s with now := target }

/-- Lets so many milliseconds pass. Every instant on the way is later than the one before. -/
def wait (s : Stage) (player : Player) (ms : Nat) : Stage := s.waitUntil player (s.now + ms) (ms + 1)

end Stage

end BoostFeed.Playback
