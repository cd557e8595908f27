import BoostFeed.Proofs.Feed.Insertions
import BoostFeed.Proofs.Service.Calls

/-! The course of one call: the steps it takes, from its start on and with each answer, and what they change. Between two
steps the reconciler may be changed by others, so each step meets one of its own. -/

namespace BoostFeed

open Feed Json Playback

/-- The triggers a queue holds in the order of their submission. -/
def Playback.Queue.held (q : Queue) : List Trigger := q.outbox ++ q.backlog

theorem Playback.Queue.held_submit (q : Queue) (t : Trigger) : (q.submit t).2.held = q.held ++ [t] := by
  unfold submit
  split
  next h => simp [held, h.2]
  next => simp [held]

theorem Playback.Queue.held_submitAll (q : Queue) (ts : List Trigger) : (q.submitAll ts).held = q.held ++ ts := by
  induction ts generalizing q with
  | nil => exact (List.append_nil _).symm
  | cons t ts ih =>
    have hlater : (q.submitAll (t :: ts)).held = (q.submit t).2.held ++ ts := ih (q.submit t).2
    rw [hlater, held_submit, List.append_assoc]
    rfl

/-- One step of a call: the reconciler that it meets and the one that it leaves. -/
structure Change where
  met : Reconciler
  left : Reconciler

namespace Change

/-- The events that the step puts into the store. -/
def added (ch : Change) : List Event :=
  ch.left.session.store.events.filter fun e => !ch.met.session.store.contains e.index

/-- The triggers that the step submits. -/
def submitted (ch : Change) : List Trigger := ch.left.queue.held.drop ch.met.queue.held.length

structure Quiet (ch : Change) : Prop where
  added : ch.added = []
  submitted : ch.submitted = []

variable {ch : Change}

theorem quiet_of_frame (hstore : ∀ i ∈ ch.left.session.store.indices, i ∈ ch.met.session.store.indices)
    (hqueue : ch.left.queue = ch.met.queue) : ch.Quiet where
  added := by
    rw [added, List.filter_eq_nil_iff]
    intro e he
    simp [Store.contains_iff.mpr (hstore _ (Store.mem_indices.mpr ⟨e, he, rfl⟩))]
  submitted := by rw [submitted, hqueue, List.drop_length]

theorem added_increasing (ch : Change) : ch.added.Pairwise (fun a b => a.index < b.index) :=
  ch.left.session.store.increasing.filter _

end Change

namespace Reconciler

variable {r : Reconciler} {c : Call} {w : Waiting} {reply : Option HttpReply} {view : View} {q : PageRequest}

theorem added_apply (hv : r.session.view = view) (page : List Event) :
    (Change.mk r (r.apply view q page).2).added =
      (r.session.store.merge (r.session.accepted page)).1.map Insertion.event := by
  rw [Store.events_insertions (r.session.ascending_accepted page), Change.added]
  simp [session_apply, hv]

theorem submitted_apply (hv : r.session.view = view) (page : List Event) :
    (Change.mk r (r.apply view q page).2).submitted = (r.session.applyPage q page).1.triggers := by
  simp [Change.submitted, apply, hv, Queue.held_submitAll]

theorem quiet_apply_of_ne (hv : r.session.view ≠ view) (page : List Event) :
    (Change.mk r (r.apply view q page).2).Quiet := by
  have hkept : (r.apply view q page).2 = r := by simp [apply, hv]
  rw [hkept]
  exact Change.quiet_of_frame (fun _ h => h) rfl

@[simp]
theorem queue_fail (f : Failure) : (r.fail f).1.queue = r.queue := by
  cases f <;> rfl

theorem queue_readBalance {b : Option Balance} {r' : Reconciler} (h : r.readBalance reply = .ok (b, r')) :
    r'.queue = r.queue := by
  unfold readBalance at h
  split at h <;> cases h <;> rfl

/-- Only pages and pushes reach the queue. -/
theorem queue_start (hc : ∀ view events, c ≠ .push view events) : (r.start c).1.queue = r.queue := by
  cases ha : r.session.authorized with
  | false => cases c <;> simp [start_of_denied ha, entered]
  | true =>
    rw [start_of_authorized ha]
    cases c with
    | tick => by_cases he : r.session.store.isEmpty = true <;> simp [he]
    | reply request => exact congrArg queue (send_fst Client.request_ne_unauthorized _)
    | push view events => exact absurd rfl (hc view events)
    | _ => simp [entered]

theorem queue_resume (hw : ∀ view q effects thenBalance, w ≠ .page view q effects thenBalance) :
    (r.resume w reply).1.queue = r.queue := by
  cases w with
  | index =>
    cases hr : reading? reply with
    | some raw => simp [resume_index_of_reading hr, primeFrom]
    | none =>
      obtain ⟨f, hf⟩ := resume_index_of_no_reading (r := r) hr
      simp [hf]
  | page view q effects thenBalance => exact absurd rfl (hw view q effects thenBalance)
  | tickBalance outcome =>
    simp only [resume]
    split
    · simp
    · next h => exact queue_readBalance h
  | balance =>
    simp only [resume]
    split
    · simp
    · next h => exact queue_readBalance h
  | reply index =>
    simp only [resume]
    split
    · simp
    · simp only [recordReply]
      split <;> rfl

theorem quiet_start (hc : ∀ view events, c ≠ .push view events) : (Change.mk r (r.start c).1).Quiet := by
  refine Change.quiet_of_frame (fun i hi => ?_) (queue_start hc)
  simp only [session_start] at hi
  cases c with
  | push view events => exact absurd rfl (hc view events)
  | switchView view => cases hi
  | _ => exact hi

theorem quiet_resume (hw : ∀ view q effects thenBalance, w ≠ .page view q effects thenBalance) :
    (Change.mk r (r.resume w reply).1).Quiet := by
  refine Change.quiet_of_frame (fun i hi => ?_) (queue_resume hw)
  have hanswered := answered (r := r) w reply
  simp only at hi
  generalize (r.resume w reply).1.session = s at hi hanswered
  cases hanswered with
  | kept authorized => exact hi
  | primed raw =>
    rw [Session.planColdStart_session] at hi
    exact hi
  | paged q effects thenBalance page h => exact absurd h (hw _ _ _ _)
  | marked i j =>
    simp only [Session.markReplied, Store.indices_markReplied] at hi
    exact hi

/-- A page that does not come changes nothing. -/
theorem quiet_resume_of_error {f : Failure} {effects : List ViewEffect} {thenBalance : Bool}
    (h : HttpReply.interpret decodePage reply = .error f) :
    (Change.mk r (r.resume (.page view q effects thenBalance) reply).1).Quiet := by
  have hfail : r.resume (.page view q effects thenBalance) reply = r.fail f := by simp [resume, h]
  rw [hfail]
  refine Change.quiet_of_frame (fun i hi => ?_) (queue_fail f)
  cases f <;> exact hi

end Reconciler

/-- A call as it went: the changes of its steps, and its result once it has come. -/
structure Course where
  changes : List Change
  result : Option (Except Failure Answer)

namespace Course

/-- The events that the call puts into the store. -/
def added (k : Course) : List Event := k.changes.flatMap Change.added

def submitted (k : Course) : List Trigger := k.changes.flatMap Change.submitted

/-- A course that a change opens: it ends with it, or waits and goes on. -/
def opened (ch : Change) (rest : Waiting → Course) : Progress → Course
  | .finished result => ⟨[ch], some result⟩
  | .waiting _ w => ⟨ch :: (rest w).changes, (rest w).result⟩

/-- How a waiting call goes on with the answers that come, each to a reconciler as others have left it. -/
def goOn (w : Waiting) : List (Reconciler × Option HttpReply) → Course
  | [] => ⟨[], none⟩
  | (r, reply) :: later => opened ⟨r, (r.resume w reply).1⟩ (goOn · later) (r.resume w reply).2

end Course

/-- The course of a call from its start. -/
def Reconciler.course (r : Reconciler) (c : Call) (later : List (Reconciler × Option HttpReply)) : Course :=
  .opened ⟨r, (r.start c).1⟩ (.goOn · later) (r.start c).2

/-- How many answers a waiting call takes at most. -/
def Waiting.answersLeft : Waiting → Nat
  | .index => 2
  | .page _ _ _ thenBalance => if thenBalance then 2 else 1
  | .tickBalance _ | .balance | .reply _ => 1

theorem Waiting.answersLeft_pos (w : Waiting) : 0 < w.answersLeft := by
  cases w with
  | page view q effects thenBalance => cases thenBalance <;> simp [answersLeft]
  | _ => simp [answersLeft]

theorem Waiting.answersLeft_le_two (w : Waiting) : w.answersLeft ≤ 2 := by
  cases w with
  | page view q effects thenBalance => cases thenBalance <;> simp [answersLeft]
  | _ => simp [answersLeft]

namespace Reconciler

variable {r : Reconciler} {c : Call} {w w' : Waiting} {request : HttpRequest} {reply : Option HttpReply}

/-- A call goes on waiting behind an index, for the page, and behind the page of a tick, for the balance. -/
theorem resume_waits (h : (r.resume w reply).2 = .waiting request w') :
    (w = .index ∧ ∃ view q effects, w' = .page view q effects false) ∨
      ∃ view q effects page o, w = .page view q effects true ∧
        HttpReply.interpret decodePage reply = .ok page ∧ w' = .tickBalance o := by
  have hpending : (r.resume w reply).2.pending? = some ⟨request, w'⟩ := by rw [h]; rfl
  cases w with
  | index =>
    cases hr : reading? reply with
    | some raw =>
      rw [resume_index_of_reading hr] at hpending
      exact .inl ⟨rfl, _, _, _, (pending?_send hpending).2⟩
    | none =>
      obtain ⟨f, hf⟩ := resume_index_of_no_reading (r := r) hr
      simp [hf] at hpending
  | page view q effects thenBalance =>
    cases hi : HttpReply.interpret decodePage reply with
    | error f => simp [resume, hi] at hpending
    | ok page =>
      cases thenBalance with
      | false => simp [resume, hi] at hpending
      | true =>
        simp only [resume, hi] at hpending
        split at hpending
        · contradiction
        · split at hpending
          · cases hpending
          · exact .inr ⟨view, q, effects, page, _, rfl, rfl, pending?_askBalance hpending⟩
  | tickBalance outcome =>
    simp only [resume] at hpending
    split at hpending <;> simp at hpending
  | balance =>
    simp only [resume] at hpending
    split at hpending <;> simp at hpending
  | reply index =>
    obtain ⟨result, hresult⟩ := resume_reply_finished (r := r) index reply
    simp [hresult] at hpending

theorem quiet_start_of_waiting (h : (r.start c).2 = .waiting request w) : (Change.mk r (r.start c).1).Quiet := by
  cases c with
  | push view events =>
    cases ha : r.session.authorized with
    | false => simp [start_of_denied ha] at h
    | true => simp [start_of_authorized ha] at h
  | _ => exact quiet_start (by simp)

theorem answersLeft_resume (h : (r.resume w reply).2 = .waiting request w') : w'.answersLeft < w.answersLeft := by
  rcases resume_waits h with ⟨rfl, view, q, effects, rfl⟩ | ⟨view, q, effects, page, o, rfl, -, rfl⟩
  · exact Nat.lt_succ_self 1
  · exact Nat.lt_succ_self 1

end Reconciler

namespace Course

variable {w : Waiting} {later : List (Reconciler × Option HttpReply)}

theorem goOn_finishes (h : w.answersLeft ≤ later.length) : ∃ result, (goOn w later).result = some result := by
  induction later generalizing w with
  | nil =>
    have hpos := w.answersLeft_pos
    simp only [List.length_nil] at h
    omega
  | cons answer later ih =>
    obtain ⟨r, reply⟩ := answer
    simp only [List.length_cons] at h
    cases hp : (r.resume w reply).2 with
    | finished result => exact ⟨result, by simp [goOn, hp, opened]⟩
    | waiting request w' =>
      have hless := Reconciler.answersLeft_resume hp
      obtain ⟨result, hresult⟩ := ih (w := w') (by omega)
      exact ⟨result, by simp [goOn, hp, opened, hresult]⟩

theorem course_finishes (r : Reconciler) (c : Call) (h : 2 ≤ later.length) :
    ∃ result, (r.course c later).result = some result := by
  unfold Reconciler.course
  cases hp : (r.start c).2 with
  | finished result => exact ⟨result, rfl⟩
  | waiting request w => exact goOn_finishes (Nat.le_trans w.answersLeft_le_two h)

theorem added_goOn_tickBalance (o : Outcome) (later : List (Reconciler × Option HttpReply)) :
    (goOn (.tickBalance o) later).added = [] := by
  cases later with
  | nil => rfl
  | cons answer later =>
    obtain ⟨r, reply⟩ := answer
    have hquiet : (Change.mk r (r.resume (.tickBalance o) reply).1).Quiet := Reconciler.quiet_resume (by simp)
    cases hp : (r.resume (.tickBalance o) reply).2 with
    | finished result => simp [goOn, hp, opened, added, hquiet.added]
    | waiting request w =>
      rcases Reconciler.resume_waits hp with ⟨h, -⟩ | ⟨_, _, _, _, _, h, -⟩ <;> cases h

/-- Of the steps of a call at most one adds events. -/
theorem added_goOn_increasing (w : Waiting) (later : List (Reconciler × Option HttpReply)) :
    (goOn w later).added.Pairwise (fun a b => a.index < b.index) := by
  induction later generalizing w with
  | nil => exact .nil
  | cons answer later ih =>
    obtain ⟨r, reply⟩ := answer
    have hstep := (Change.mk r (r.resume w reply).1).added_increasing
    cases hp : (r.resume w reply).2 with
    | finished result => simpa [goOn, hp, opened, added] using hstep
    | waiting request w' =>
      have hadded : (goOn w ((r, reply) :: later)).added =
          (Change.mk r (r.resume w reply).1).added ++ (goOn w' later).added := by simp [goOn, hp, opened, added]
      rw [hadded]
      rcases Reconciler.resume_waits hp with ⟨rfl, -⟩ | ⟨view, q, effects, page, o, rfl, -, rfl⟩
      · have hquiet : (Change.mk r (r.resume .index reply).1).Quiet := Reconciler.quiet_resume (by simp)
        rw [hquiet.added]
        exact ih w'
      · rw [added_goOn_tickBalance, List.append_nil]
        exact hstep

theorem added_course_increasing (r : Reconciler) (c : Call) (later : List (Reconciler × Option HttpReply)) :
    (r.course c later).added.Pairwise (fun a b => a.index < b.index) := by
  unfold Reconciler.course
  have hstep := (Change.mk r (r.start c).1).added_increasing
  cases hp : (r.start c).2 with
  | finished result => simpa [opened, added] using hstep
  | waiting request w =>
    have hquiet := Reconciler.quiet_start_of_waiting hp
    simp only [opened, added, List.flatMap_cons, hquiet.added]
    exact added_goOn_increasing w later

end Course

end BoostFeed
