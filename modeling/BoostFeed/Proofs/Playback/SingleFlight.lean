import BoostFeed.Playback.Queue

/-! A queue and a player that may end what it plays at any time. Whatever is submitted and whenever triggers end, one
of them plays at a time and they follow one another as they were submitted. -/

namespace BoostFeed.Playback

/-- A queue at work with its player. -/
structure Recital where
  queue : Queue := {}
  /-- What the player has taken, the first first. -/
  taken : List Trigger := []
  /-- What of it has not ended. -/
  running : List Trigger := []
  /-- What of it has ended, in the order of the ends. -/
  ended : List Trigger := []

namespace Recital

inductive Turn where
  | submit (t : Trigger)
  | tick
  /-- The player takes what has been started. -/
  | take
  /-- One of the running triggers ends. -/
  | finish (place : Nat)

def Turn.submitted? : Turn → Option Trigger
  | .submit t => some t
  | .tick | .take | .finish _ => none

def step (r : Recital) : Turn → Recital
  | .submit t => { r with queue := (r.queue.submit t).2 }
  | .tick => { r with queue := r.queue.tick.2 }
  | .take =>
    let (started, queue) := r.queue.take
    { r with queue, taken := r.taken ++ started, running := r.running ++ started }
  | .finish place =>
    match r.running[place]? with
    | none => r
    | some t =>
      { r with queue := r.queue.finish, running := r.running.eraseIdx place, ended := r.ended ++ [t] }

def run (r : Recital) (turns : List Turn) : Recital := turns.foldl step r

/-- What has been started, in start order. -/
def started (r : Recital) : List Trigger := r.taken ++ r.queue.outbox

/-- What has been started and has not ended. -/
def unfinished (r : Recital) : List Trigger := r.running ++ r.queue.outbox

theorem step_finish_of_none {r : Recital} {place : Nat} (h : r.running[place]? = none) :
    r.step (.finish place) = r := by
  simp only [step, h]

theorem step_finish_of_some {r : Recital} {place : Nat} {t : Trigger} (h : r.running[place]? = some t) :
    r.step (.finish place) =
      { r with queue := r.queue.finish, running := r.running.eraseIdx place, ended := r.ended ++ [t] } := by
  simp only [step, h]

/-- What a queue keeps to: triggers start in the order of their submission, each when the one before has ended. -/
structure InTurn (submitted : List Trigger) (r : Recital) : Prop where
  fifo : r.started ++ r.queue.backlog = submitted
  ended : r.ended ++ r.unfinished = r.started
  single : r.unfinished.length = r.queue.playing.toNat

variable {r : Recital} {submitted : List Trigger} {t : Trigger} {waiting : List Trigger}

theorem InTurn.unfinished_eq_nil_iff (h : InTurn submitted r) : r.unfinished = [] ↔ r.queue.playing = false := by
  rw [← List.length_eq_zero_iff, h.single]
  cases r.queue.playing <;> decide

theorem InTurn.enqueue (h : InTurn submitted r) (t : Trigger) :
    InTurn (submitted ++ [t]) { r with queue := { r.queue with backlog := r.queue.backlog ++ [t] } } where
  fifo := by rw [← h.fifo, List.append_assoc]; rfl
  ended := h.ended
  single := h.single

/-- The next waiting trigger starts when nothing plays. -/
theorem InTurn.start (h : InTurn submitted r) (hidle : r.queue.playing = false) (hnext : r.queue.backlog = t :: waiting) :
    InTurn submitted
      { r with queue := { playing := true, backlog := waiting, outbox := r.queue.outbox ++ [t] } } where
  fifo := by
    have hfifo := h.fifo
    rw [hnext] at hfifo
    simpa [started] using hfifo
  ended := by
    have hended := congrArg (· ++ [t]) h.ended
    simpa [started, unfinished] using hended
  single := by
    have hnone := h.unfinished_eq_nil_iff.mpr hidle
    simp only [unfinished, List.append_eq_nil_iff] at hnone
    simp [unfinished, hnone]

theorem InTurn.submit (h : InTurn submitted r) (t : Trigger) : InTurn (submitted ++ [t]) (r.step (.submit t)) := by
  have henqueue := h.enqueue t
  simp only [step, Queue.submit]
  split
  next hfree => exact henqueue.start hfree.1 (by simp [hfree.2])
  next => exact henqueue

theorem InTurn.tick (h : InTurn submitted r) : InTurn submitted (r.step .tick) := by
  simp only [step, Queue.tick]
  split
  next hidle hnext => exact h.start hidle hnext
  next => exact h

theorem InTurn.take (h : InTurn submitted r) : InTurn submitted (r.step .take) where
  fifo := by simpa [step, Queue.take, started] using h.fifo
  ended := by simpa [step, Queue.take, started, unfinished] using h.ended
  single := by simpa [step, Queue.take, unfinished] using h.single

/-- What the player runs is the only trigger that has not ended. -/
theorem InTurn.only_running (h : InTurn submitted r) {place : Nat} (ht : r.running[place]? = some t) :
    place = 0 ∧ r.running = [t] ∧ r.queue.outbox = [] := by
  obtain ⟨hlt, hget⟩ := List.getElem?_eq_some_iff.mp ht
  have hone : r.running.length + r.queue.outbox.length ≤ 1 := by
    rw [← List.length_append]
    exact Nat.le_trans (Nat.le_of_eq h.single) (Bool.toNat_le _)
  have hplace : place = 0 := by omega
  have hlength : r.running.length = 1 := by omega
  obtain ⟨u, hu⟩ := List.length_eq_one_iff.mp hlength
  refine ⟨hplace, ?_, List.length_eq_zero_iff.mp (by omega)⟩
  subst hplace
  simp only [hu, List.getElem_cons_zero] at hget
  rw [hu, hget]

theorem InTurn.finish (h : InTurn submitted r) (place : Nat) : InTurn submitted (r.step (.finish place)) := by
  cases ht : r.running[place]? with
  | none =>
    rw [step_finish_of_none ht]
    exact h
  | some t =>
    obtain ⟨rfl, hrunning, houtbox⟩ := h.only_running ht
    have hended := h.ended
    simp only [started, unfinished, hrunning, houtbox] at hended
    rw [step_finish_of_some ht]
    exact {
      fifo := h.fifo
      ended := by simpa [Queue.finish, started, unfinished, hrunning, houtbox] using hended
      single := by simp [Queue.finish, unfinished, hrunning, houtbox] }

theorem InTurn.step (h : InTurn submitted r) (turn : Turn) :
    InTurn (submitted ++ turn.submitted?.toList) (r.step turn) := by
  cases turn with
  | submit t => exact h.submit t
  | tick => simpa [Turn.submitted?] using h.tick
  | take => simpa [Turn.submitted?] using h.take
  | finish place => simpa [Turn.submitted?] using h.finish place

theorem InTurn.run (h : InTurn submitted r) (turns : List Turn) :
    InTurn (submitted ++ turns.filterMap Turn.submitted?) (r.run turns) := by
  induction turns generalizing r submitted with
  | nil => simpa [Recital.run] using h
  | cons turn turns ih =>
    have hrest := ih (h.step turn)
    rw [List.append_assoc] at hrest
    cases hturn : turn.submitted? <;> simpa [Recital.run, hturn] using hrest

/-- The player takes what has been started, it ends, and the scheduler ticks. -/
def round : List Turn := [.take, .finish 0, .tick]

def rounds (n : Nat) : List Turn := (List.replicate n round).flatten

theorem run_rounds_succ (r : Recital) (n : Nat) : r.run (rounds (n + 1)) = (r.run round).run (rounds n) := by
  simp [run, rounds, List.replicate_succ]

theorem InTurn.round (h : InTurn submitted r) : InTurn submitted (r.run round) :=
  (h.take.finish 0).tick

theorem InTurn.unfinished_finish (h : InTurn submitted r) (houtbox : r.queue.outbox = []) :
    (r.step (.finish 0)).unfinished = [] := by
  cases hrunning : r.running with
  | nil =>
    rw [step_finish_of_none (by simp [hrunning])]
    simp [unfinished, hrunning, houtbox]
  | cons t rest =>
    have ht : r.running[0]? = some t := by simp [hrunning]
    obtain ⟨-, honly, -⟩ := h.only_running ht
    rw [step_finish_of_some ht]
    simp [unfinished, Queue.finish, honly, houtbox]

theorem backlog_finish (r : Recital) (place : Nat) : (r.step (.finish place)).queue.backlog = r.queue.backlog := by
  cases ht : r.running[place]? with
  | none => rw [step_finish_of_none ht]
  | some t =>
    rw [step_finish_of_some ht]
    rfl

/-- A round starts the next waiting trigger, or leaves nothing to do. -/
theorem InTurn.round_backlog (h : InTurn submitted r) :
    (r.run Recital.round).queue.backlog = r.queue.backlog.tail ∧
      (r.queue.backlog = [] → (r.run Recital.round).unfinished = []) := by
  let r' := (r.step .take).step (.finish 0)
  have hnone : r'.unfinished = [] := h.take.unfinished_finish rfl
  have hidle : r'.queue.playing = false := (h.take.finish 0).unfinished_eq_nil_iff.mp hnone
  have hbacklog : r'.queue.backlog = r.queue.backlog := backlog_finish _ 0
  change (r'.step .tick).queue.backlog = _ ∧ (_ → (r'.step .tick).unfinished = [])
  cases hr : r.queue.backlog with
  | nil =>
    have htick : r'.step .tick = r' := by simp [Recital.step, Queue.tick, hbacklog, hr]
    rw [htick]
    exact ⟨by rw [hbacklog, hr]; rfl, fun _ => hnone⟩
  | cons t waiting => simp [Recital.step, Queue.tick, hidle, hbacklog, hr]

/-- Whatever waits is played to its end, one trigger in each round. -/
theorem InTurn.ended_rounds (h : InTurn submitted r) {n : Nat} (hn : r.queue.backlog.length = n) :
    (r.run (rounds (n + 1))).ended = submitted := by
  induction n generalizing r with
  | zero =>
    have hnil := List.length_eq_zero_iff.mp hn
    obtain ⟨hbacklog, hnone⟩ := h.round_backlog
    have hround := h.round
    have hfifo := hround.fifo
    rw [← hround.ended, hnone hnil, hbacklog, hnil] at hfifo
    simpa [run_rounds_succ, rounds, run] using hfifo
  | succ n ih =>
    rw [run_rounds_succ]
    apply ih h.round
    rw [h.round_backlog.1, List.length_tail, hn]
    rfl

/-- After any submissions, ticks and ends of triggers, the triggers that have been started, in start order, and those
that wait are together just those submitted, in the order of their submission. They end in that order too, at most
one of them is started and has not ended, and the queue plays exactly while one has not. A submitted trigger starts
at once if none is unfinished and none waits, else it is told the length of the backlog with it. And all that has
been submitted can be played to its end. -/
theorem triggers_play_in_turn (turns : List Turn) :
    let r := ({} : Recital).run turns
    let submitted := turns.filterMap Turn.submitted?
    r.started ++ r.queue.backlog = submitted ∧ r.ended ++ r.unfinished = r.started ∧
    r.unfinished.length ≤ 1 ∧ (r.queue.playing = true ↔ r.unfinished ≠ []) ∧
    (∀ t, (r.queue.submit t).1 =
      if r.unfinished = [] ∧ r.queue.backlog = [] then .started
      else .queued (r.queue.submit t).2.backlog.length) ∧
    (r.run (rounds (r.queue.backlog.length + 1))).ended = submitted := by
  intro r submitted
  have hfresh : InTurn [] {} := ⟨rfl, rfl, rfl⟩
  have h : InTurn submitted r := hfresh.run turns
  have hsingle : r.unfinished.length ≤ 1 := Nat.le_trans (Nat.le_of_eq h.single) (Bool.toNat_le _)
  have hplaying : r.queue.playing = true ↔ r.unfinished ≠ [] := by
    rw [Ne, h.unfinished_eq_nil_iff, Bool.not_eq_false]
  refine ⟨h.fifo, h.ended, hsingle, hplaying, fun t => ?_, h.ended_rounds rfl⟩
  simp only [h.unfinished_eq_nil_iff, Queue.submit]
  split <;> rfl

end Recital

end BoostFeed.Playback
