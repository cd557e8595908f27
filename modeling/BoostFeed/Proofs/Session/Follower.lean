import BoostFeed.Proofs.Session.ForwardPolling
import BoostFeed.Service.Reconciler

/-! A session that polls and takes pushes at once. While a page is under way pushes may move the store that
it was planned from, so what a page brings is told from the log and not from the store it meets. -/

namespace BoostFeed

open Feed

/-- A session that a poller with at most one page under way and a push channel feed. -/
structure Follower where
  session : Session
  inFlight : Option PageRequest := none

inductive FeedStep where
  | push (e : Event)
  | ask
  | answer
deriving DecidableEq

namespace Follower

variable {server : FeedServer} {f : Follower} {e : Event}

def step (server : FeedServer) (f : Follower) : FeedStep → Follower
  | .push e => { f with session := (f.session.applyPage f.session.planForward [e]).2 }
  | .ask =>
    match f.inFlight with
    | some _ => f
    | none => { f with inFlight := some f.session.planForward }
  | .answer =>
    match f.inFlight with
    | some r => ⟨(f.session.applyPage r (server.answer r.query)).2, none⟩
    | none => f

def run (server : FeedServer) (f : Follower) (steps : List FeedStep) : Follower :=
  steps.foldl (step server) f

/-- Polls that a step completes. -/
def completes (f : Follower) : FeedStep → Nat
  | .answer => if f.inFlight.isSome then 1 else 0
  | .push _ | .ask => 0

def completed (server : FeedServer) (f : Follower) : List FeedStep → Nat
  | [] => 0
  | st :: steps => f.completes st + completed server (f.step server st) steps

theorem run_append (steps steps' : List FeedStep) :
    f.run server (steps ++ steps') = (f.run server steps).run server steps' :=
  List.foldl_append

/-- What holds of a follower of a log that its session admits, once something is stored. -/
structure Sound (server : FeedServer) (f : Follower) : Prop where
  within : f.session.Within server.log
  admits : ∀ e ∈ server.log, f.session.admits e = true
  stored : ∃ x, x ∈ f.session.store.events
  request : ∀ r, f.inFlight = some r →
    r.query.old = false ∧ ∃ x ∈ f.session.store.events, r.query.index ≤ x.index

theorem mem_push (h : Sound server f) {p : Event} (hp : p ∈ server.log) :
    e ∈ (f.step server (.push p)).session.store.events ↔
      e ∈ f.session.store.events ∨ e = p := by
  have hpage : ∀ x ∈ [p], x ∈ server.log := fun x hx => List.mem_singleton.mp hx ▸ hp
  have hmem := h.within.mem_applyPage (r := f.session.planForward) (e := e) hpage
  rw [List.mem_singleton] at hmem
  refine hmem.trans (or_congr_right ⟨And.left, fun he => ⟨he, ?_⟩⟩)
  rw [he]
  exact h.admits p hp

theorem mem_answered (h : Sound server f) {r : PageRequest} (hr : f.inFlight = some r) :
    e ∈ (f.step server .answer).session.store.events ↔
      e ∈ f.session.store.events ∨ e ∈ server.answer r.query := by
  have hold := (h.request r hr).1
  have hmem := h.within.mem_applyPage (r := r) (e := e) fun _ => Session.mem_log_of_mem_answer hold
  simp only [step, hr]
  refine hmem.trans (or_congr_right ⟨And.left, fun he => ⟨he, ?_⟩⟩)
  exact h.admits e (Session.mem_log_of_mem_answer hold he)

theorem mem_step_of_mem (st : FeedStep) (he : e ∈ f.session.store.events) :
    e ∈ (f.step server st).session.store.events := by
  cases st with
  | push p => exact Session.mem_applyPage_of_mem he
  | ask =>
    simp only [step]
    split <;> exact he
  | answer =>
    simp only [step]
    split
    · exact Session.mem_applyPage_of_mem he
    · exact he

theorem mem_run_of_mem (steps : List FeedStep) (he : e ∈ f.session.store.events) :
    e ∈ (f.run server steps).session.store.events := by
  induction steps generalizing f with
  | nil => exact he
  | cons st steps ih => exact ih (mem_step_of_mem st he)

theorem exists_query (h : Sound server f) : ∃ x ∈ f.session.store.events,
    f.session.planForward.query = ⟨x.index, forwardPageSize, false⟩ ∧
    ∀ y ∈ f.session.store.events, y.index ≤ x.index := by
  obtain ⟨y, hy⟩ := h.stored
  obtain ⟨x, hx, hh, hle⟩ := Store.exists_newest hy
  exact ⟨x, hx, Session.query_planForward hh, hle⟩

theorem Sound.step (h : Sound server f) {st : FeedStep} (hst : ∀ p, st = .push p → p ∈ server.log) :
    Sound server (f.step server st) := by
  have hstored : ∃ x, x ∈ (f.step server st).session.store.events :=
    h.stored.imp fun _ hx => mem_step_of_mem st hx
  have hlater {i : UInt64} (hi : ∃ x ∈ f.session.store.events, i ≤ x.index) :
      ∃ x ∈ (f.step server st).session.store.events, i ≤ x.index :=
    hi.imp fun _ hx => ⟨mem_step_of_mem st hx.1, hx.2⟩
  cases st with
  | push p =>
    have hp := hst p rfl
    refine ⟨fun x hx => ?_, h.admits, hstored, fun r hr => ?_⟩
    · rcases (mem_push h hp).mp hx with hx | rfl
      · exact h.within x hx
      · exact hp
    · exact ⟨(h.request r hr).1, hlater (h.request r hr).2⟩
  | ask =>
    cases hf : f.inFlight with
    | some r => simpa only [Follower.step, hf] using h
    | none =>
      simp only [Follower.step, hf]
      refine ⟨h.within, h.admits, h.stored, fun r hr => ?_⟩
      cases hr
      obtain ⟨x, hx, hq, _⟩ := exists_query h
      exact ⟨Session.old_planForward _, x, hx, hq ▸ UInt64.le_refl _⟩
  | answer =>
    cases hf : f.inFlight with
    | none => simpa only [Follower.step, hf] using h
    | some r =>
      refine ⟨fun x hx => ?_, ?_, hstored, ?_⟩
      · rcases (mem_answered h hf).mp hx with hx | hx
        · exact h.within x hx
        · exact Session.mem_log_of_mem_answer (h.request r hf).1 hx
      · simp only [Follower.step, hf]
        exact h.admits
      · simp [Follower.step, hf]

theorem Sound.run (h : Sound server f) {steps : List FeedStep}
    (hp : ∀ p, .push p ∈ steps → p ∈ server.log) : Sound server (f.run server steps) := by
  induction steps generalizing f with
  | nil => exact h
  | cons st steps ih =>
    refine ih (h.step fun p hst => hp p ?_) fun p hm => hp p (List.mem_cons_of_mem st hm)
    rw [hst]
    exact List.mem_cons_self

section Calls

variable {r : Reconciler} {q : PageRequest}

/-- The steps are what the calls of a reconciler do to its session, that of a pushed frame to begin with. -/
theorem session_start_push (ha : r.session.authorized = true) (i : Option PageRequest) :
    (r.start (.push r.session.view [e])).1.session = (step server ⟨r.session, i⟩ (.push e)).session := by
  simp [Reconciler.start, Reconciler.apply, step, ha]

theorem start_forward (ha : r.session.authorized = true) {request : HttpRequest}
    (hq : (step server ⟨r.session, none⟩ .ask).inFlight = some q)
    (hr : r.client.pageRequest r.session.view.feedPath q.query = .ok request) :
    r.start (.poll .forward) = (r, .waiting request (.page r.session.view q [] false)) := by
  cases hq
  simp [Reconciler.start, Reconciler.startPoll, Reconciler.askPage, Reconciler.send, ha, hr]

theorem session_resume_page {reply : Option HttpReply}
    (hr : HttpReply.interpret decodePage reply = .ok (server.answer q.query)) :
    (r.resume (.page r.session.view q [] false) reply).1.session =
      (step server ⟨r.session, some q⟩ .answer).session := by
  simp [Reconciler.resume, Reconciler.apply, step, hr]

end Calls

end Follower

end BoostFeed
