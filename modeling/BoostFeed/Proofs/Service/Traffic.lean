import BoostFeed.Proofs.Session.Convergence
import BoostFeed.Proofs.Service.Calls

/-! Calls to one reconciler that overlap. A call runs until it needs an answer; while it waits, others start
and go on, and answers come in any order. All that comes is kept, so that it can be told where an event or a
cursor is from. -/

namespace BoostFeed

open Feed Json Playback

/-- What comes to a reconciler. An answer is kept with the session that it met. -/
inductive Arrival where
  | answer (met : Session) (p : Pending) (reply : Option HttpReply)
  | push (view : View) (events : List Event)
  | switch (view : View)

def Arrival.isSwitch : Arrival → Bool
  | .switch _ => true
  | .answer _ _ _ | .push _ _ => false

def Call.arrival? : Call → Option Arrival
  | .push view events => some (.push view events)
  | .switchView view => some (.switch view)
  | .poll _ | .tick | .refreshBalance | .reply _ => none

structure Traffic where
  reconciler : Reconciler
  /-- The calls under way. -/
  pending : List Pending := []
  /-- What has come, the last first. -/
  arrivals : List Arrival := []

inductive Turn where
  | call (c : Call)
  /-- The answer to one of the calls under way. -/
  | answer (place : Nat) (reply : Option HttpReply)

namespace Traffic

variable {t : Traffic} {turn : Turn} {p : Pending} {reply : Option HttpReply}

/-- A new reconciler over a fresh session. -/
def fresh (client : Client) (queue : Queue) (view : View) (settings : Settings)
    (rules : List Numerology.Rule) (apps : AppCatalog) : Traffic where
  reconciler := { client, queue, session := .fresh view settings rules apps }

/-- A fresh session with the usual settings, for a server on the same machine. -/
def ofLocal (view : View) : Traffic :=
  fresh { base := { scheme := "http", host := some (.domain "localhost"), path := .segments [""] } }
    {} view {} [] {}

abbrev session (t : Traffic) : Session := t.reconciler.session

abbrev client (t : Traffic) : Client := t.reconciler.client

def step (t : Traffic) : Turn → Traffic
  | .call c =>
    let (reconciler, progress) := t.reconciler.start c
    { reconciler
      pending := t.pending ++ progress.pending?.toList
      arrivals := c.arrival?.toList ++ t.arrivals }
  | .answer place reply =>
    match t.pending[place]? with
    | none => t
    | some p =>
      let (reconciler, progress) := t.reconciler.resume p.waiting reply
      { reconciler
        pending := t.pending.eraseIdx place ++ progress.pending?.toList
        arrivals := .answer t.session p reply :: t.arrivals }

def run (t : Traffic) (turns : List Turn) : Traffic := turns.foldl step t

/-- The request that a turn sends, with the call that waits for its answer. -/
def sent? (t : Traffic) : Turn → Option Pending
  | .call c => (t.reconciler.start c).2.pending?
  | .answer place reply =>
    t.pending[place]?.bind fun p => (t.reconciler.resume p.waiting reply).2.pending?

/-- What has come since the last switch of the view. -/
def sinceSwitch (arrivals : List Arrival) : List Arrival := arrivals.takeWhile (!·.isSwitch)

/-- Nothing of a kind has come since the last switch of the view. -/
def ClearOf (kind : Arrival → Bool) (arrivals : List Arrival) : Prop :=
  ∀ a ∈ sinceSwitch arrivals, kind a = false

instance (kind : Arrival → Bool) (arrivals : List Arrival) : Decidable (ClearOf kind arrivals) :=
  inferInstanceAs (Decidable (∀ a ∈ sinceSwitch arrivals, kind a = false))

theorem ClearOf.of_append {kind : Arrival → Bool} {new arrivals : List Arrival}
    (h : ClearOf kind (new ++ arrivals)) (hnew : ∀ a ∈ new, a.isSwitch = false) :
    (∀ a ∈ new, kind a = false) ∧ ClearOf kind arrivals := by
  have happend : sinceSwitch (new ++ arrivals) = new ++ sinceSwitch arrivals :=
    List.takeWhile_append_of_pos fun a ha => by simp [hnew a ha]
  unfold ClearOf at h
  rw [happend] at h
  exact ⟨fun a ha => h a (List.mem_append_left _ ha), fun a ha => h a (List.mem_append_right _ ha)⟩

theorem ClearOf.of_cons {kind : Arrival → Bool} {a : Arrival} {arrivals : List Arrival}
    (h : ClearOf kind (a :: arrivals)) (ha : a.isSwitch = false) :
    kind a = false ∧ ClearOf kind arrivals := by
  have happend : (∀ b ∈ [a], kind b = false) ∧ ClearOf kind arrivals := of_append h (by simpa using ha)
  exact happend.imp_left fun hnew => hnew a List.mem_cons_self

/-- What holds at the start and is kept by every turn holds after every run. -/
theorem run_induction {P : Traffic → Prop} (h : P t) (hstep : ∀ t turn, P t → P (t.step turn))
    (turns : List Turn) : P (t.run turns) := by
  induction turns generalizing t with
  | nil => exact h
  | cons turn turns ih => exact ih (hstep t turn h)

@[simp]
theorem client_step : (t.step turn).client = t.client := by
  cases turn with
  | call c => exact Reconciler.client_start c
  | answer place reply =>
    cases hp : t.pending[place]? with
    | none => simp [step, hp]
    | some p => simpa [step, hp] using Reconciler.client_resume p.waiting reply

theorem mem_pending_step (h : p ∈ (t.step turn).pending) :
    p ∈ t.pending ∨ t.sent? turn = some p := by
  cases turn with
  | call c => simpa [step, sent?] using h
  | answer place reply =>
    cases hp : t.pending[place]? with
    | none => exact .inl (by simpa [step, hp] using h)
    | some q =>
      simp only [step, hp, List.mem_append, Option.mem_toList] at h
      refine h.imp List.mem_of_mem_eraseIdx fun h => ?_
      simpa [sent?, hp] using h

/-- What a turn does to the session, and what it adds to the arrivals. -/
inductive Moved (t : Traffic) : Session → List Arrival → Prop
  | kept (authorized : Bool) (new : List Arrival) : (∀ a ∈ new, a.isSwitch = false) →
      Moved t { t.session with authorized } (new ++ t.arrivals)
  | switched (view : View) : Moved t (t.session.reset view) (.switch view :: t.arrivals)
  | pushed (events : List Event) :
      Moved t (t.session.applyPage t.session.planForward events).2
        (.push t.session.view events :: t.arrivals)
  | primed (p : Pending) (reply : Option HttpReply) (raw : Value) : p ∈ t.pending →
      p.waiting = .index → reading? reply = some raw →
      Moved t (t.session.planColdStart raw).2.2 (.answer t.session p reply :: t.arrivals)
  | paged (p : Pending) (reply : Option HttpReply) (q : PageRequest) (effects : List ViewEffect)
      (thenBalance : Bool) (page : List Event) : p ∈ t.pending →
      p.waiting = .page t.session.view q effects thenBalance →
      HttpReply.interpret decodePage reply = .ok page →
      Moved t (t.session.applyPage q page).2 (.answer t.session p reply :: t.arrivals)
  | marked (p : Pending) (reply : Option HttpReply) (i : UInt64) : p ∈ t.pending →
      Moved t (t.session.markReplied i).2 (.answer t.session p reply :: t.arrivals)

theorem Moved.same (new : List Arrival) (h : ∀ a ∈ new, a.isSwitch = false) :
    Moved t t.session (new ++ t.arrivals) := .kept t.session.authorized new h

theorem moved_step (t : Traffic) (turn : Turn) :
    Moved t (t.step turn).session (t.step turn).arrivals := by
  cases turn with
  | call c =>
    change Moved t (t.reconciler.start c).1.session (c.arrival?.toList ++ t.arrivals)
    rw [Reconciler.session_start]
    cases c with
    | switchView view => exact .switched view
    | push view events =>
      dsimp only
      split
      · next hv =>
        rw [← hv.2]
        exact .pushed events
      · exact .same _ (by simp [Call.arrival?, Arrival.isSwitch])
    | _ => exact .same _ (by simp [Call.arrival?])
  | answer place reply =>
    cases hp : t.pending[place]? with
    | none =>
      simp only [step, hp]
      exact .same [] (by simp)
    | some p =>
      have hm := List.mem_of_getElem? hp
      have h := Reconciler.answered (r := t.reconciler) p.waiting reply
      simp only [step, hp, session]
      generalize (t.reconciler.resume p.waiting reply).1.session = s at h ⊢
      cases h with
      | kept authorized => exact .kept authorized [.answer t.session p reply] (by simp [Arrival.isSwitch])
      | primed raw hw hr => exact .primed p reply raw hm hw hr
      | paged q effects thenBalance page hw hi => exact .paged p reply q effects thenBalance page hm hw hi
      | marked i j hw => exact .marked p reply j hm

/-- A page that a turn asks for is one of the feed that the turn leaves current. It is planned from the session,
or primed from the reading that the turn brings. -/
theorem sent_page {view : View} {q : PageRequest} {effects : List ViewEffect} {thenBalance : Bool}
    (h : t.sent? turn = some p) (hp : p.waiting = .page view q effects thenBalance) :
    (t.step turn).reconciler.AsksPage p view q ∧
      ((∃ direction, q = (t.step turn).session.plan direction) ∨
        ∃ raw, (t.step turn).session = (t.session.planColdStart raw).2.2 ∧
          q = (t.session.planColdStart raw).1) := by
  cases turn with
  | call c =>
    obtain ⟨hr, hask, hplan⟩ := Reconciler.start_asksPage h hp
    simp only [step, hr]
    exact ⟨hask, .inl hplan⟩
  | answer place reply =>
    cases hplace : t.pending[place]? with
    | none => simp [sent?, hplace] at h
    | some p' =>
      simp only [sent?, hplace, Option.bind_some] at h
      obtain ⟨hask, hprimed⟩ := Reconciler.resume_asksPage h hp
      simp only [step, hplace, session]
      exact ⟨hask, .inr hprimed⟩

end Traffic

end BoostFeed
