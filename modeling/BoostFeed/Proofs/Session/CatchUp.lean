import Mathlib.Data.List.Count
import BoostFeed.Proofs.Session.Following

/-! Once the pushes stop, polls close the distance to the end of the log: the first may still bring a page
planned before the last push, and each later one brings an event above the stored ones while there is any. -/

namespace BoostFeed.Follower

open Feed

variable {server : FeedServer} {f : Follower} {e : Event}

/-- One if the page under way was planned from another store, else none. -/
def stale (f : Follower) : Nat :=
  match f.inFlight with
  | some r => if r = f.session.planForward then 0 else 1
  | none => 0

/-- Polls that the session may need to reach the end of the log. -/
def debt (server : FeedServer) (f : Follower) : Nat :=
  Session.remaining server f.session + f.stale

theorem stale_le_one (f : Follower) : f.stale ≤ 1 := by
  unfold stale
  split
  · split <;> omega
  · omega

theorem debt_le_length (h : Sound server f) : debt server f ≤ server.log.length := by
  obtain ⟨x, hx⟩ := h.stored
  have hlt : Session.remaining server f.session < server.log.length := by
    refine List.countP_lt_length_iff.mpr ⟨x, h.within x hx, ?_⟩
    simp only [decide_eq_false_iff_not]
    exact fun hall => UInt64.lt_irrefl _ (hall x hx)
  have hstale := f.stale_le_one
  unfold debt
  omega

theorem remaining_answer_lt (h : Sound server f) (hf : f.inFlight = some f.session.planForward)
    (hpos : 0 < Session.remaining server f.session) :
    Session.remaining server (f.step server .answer).session <
      Session.remaining server f.session := by
  have hpoll : (f.step server .answer).session = f.session.poll server := by
    simp only [step, hf, Session.poll]
  obtain ⟨y, hy, habove⟩ := Session.remaining_pos.mp hpos
  obtain ⟨z, hz⟩ := h.stored
  obtain ⟨x, hx, hh, _⟩ := Store.exists_newest hz
  have hroom : 0 < forwardPageSize - 1 := by decide
  obtain ⟨w, hw⟩ := exists_mem_lowestOf (p := (x.index < ·.index)) hroom hy
    (by simpa using habove x hx)
  rw [hpoll]
  exact Session.remaining_poll_lt h.within hh hw (h.admits w ((mem_lowestOf server.distinct).mp hw).1)

/-- Apart from pushes, no step raises the debt, and each completed poll pays one. -/
theorem debt_step_le (h : Sound server f) {st : FeedStep} (hst : ∀ p, st ≠ .push p) :
    debt server (f.step server st) ≤ debt server f - f.completes st := by
  cases st with
  | push p => exact absurd rfl (hst p)
  | ask =>
    cases hf : f.inFlight with
    | some r => simp [step, completes, hf]
    | none => simp [step, completes, debt, stale, hf]
  | answer =>
    cases hf : f.inFlight with
    | none => simp [step, completes, hf]
    | some r =>
      have hclear : (f.step server .answer).stale = 0 := by simp [step, stale, hf]
      have hle : Session.remaining server (f.step server .answer).session ≤
          Session.remaining server f.session :=
        Session.remaining_le_of_subset fun _ => mem_step_of_mem .answer
      have hone : f.completes .answer = 1 := by simp [completes, hf]
      unfold debt
      rw [hclear, hone]
      by_cases hr : r = f.session.planForward
      · by_cases hpos : 0 < Session.remaining server f.session
        · have hlt := remaining_answer_lt h (hr ▸ hf) hpos
          omega
        · omega
      · -- such a page may bring nothing new, but the next one is planned from the store it meets
        have hstale : f.stale = 1 := by simp [stale, hf, hr]
        omega

theorem debt_run_le (h : Sound server f) {steps : List FeedStep} (hst : ∀ p, .push p ∉ steps) :
    debt server (f.run server steps) ≤ debt server f - f.completed server steps := by
  induction steps generalizing f with
  | nil => exact Nat.le_refl _
  | cons st steps ih =>
    have hhead : ∀ p, st ≠ .push p := fun p he => hst p (he ▸ List.mem_cons_self)
    have hsound : Sound server (f.step server st) := h.step fun p he => absurd he (hhead p)
    have htail := ih hsound fun p hm => hst p (List.mem_cons_of_mem st hm)
    have hstep := debt_step_le h hhead
    change debt server ((f.step server st).run server steps) ≤ _
    simp only [completed]
    omega

/-- Without debt, what is still to come is stored. -/
theorem Coming.mem (h : Sound server f) (hc : Coming server f e) (he : e ∈ server.log)
    (hd : debt server f = 0) : e ∈ f.session.store.events := by
  have hreached : ∃ x ∈ f.session.store.events, e.index ≤ x.index := by
    by_contra hnone
    have hpos : 0 < Session.remaining server f.session := Session.remaining_pos.mpr
      ⟨e, he, fun x hx => UInt64.not_le.mp fun hex => hnone ⟨x, hx, hex⟩⟩
    unfold debt at hd
    omega
  obtain ⟨y, hy, hey⟩ := hreached
  rcases hc with hm | habove | ⟨r, hr, hpage⟩
  · exact hm
  · exact absurd (habove y hy) (UInt64.not_lt.mpr hey)
  · have hfresh : r = f.session.planForward := by
      by_contra hne
      have hstale : f.stale = 1 := by simp [stale, hr, hne]
      unfold debt at hd
      omega
    obtain ⟨x, hx, hquery, hle⟩ := exists_query h
    have hxe : x.index ≤ e.index := by
      have hindex := ((FeedServer.mem_answer (hfresh ▸ Session.old_planForward _)).mp hpage).2.1
      simpa only [hfresh, hquery] using hindex
    have heq := UInt64.le_antisymm hxe (UInt64.le_trans hey (hle y hy))
    exact FeedServer.eq_of_index_eq (h.within x hx) he heq ▸ hx

/-- A session that has taken the page that a reading of the server's index primes. -/
def primed (server : FeedServer) (s : Session) (raw : Json.Value) : Follower where
  session :=
    let (r, _, s) := s.planColdStart raw
    (s.applyPage r (server.answer r.query)).2

section Primed

variable {s : Session} {raw : Json.Value} {n : UInt64}

theorem mem_primed (hs : s.store = ∅) (hraw : raw.index? = some n) :
    e ∈ (primed server s raw).session.store.events ↔
      e ∈ server.answer ⟨n, forwardPageSize, false⟩ ∧ s.admits e = true := by
  have hnone {x : Event} : x ∉ s.store.events := by
    rw [hs]
    exact List.not_mem_nil
  simp only [primed, Session.planColdStart, hraw]
  rw [Session.Within.mem_applyPage ?_ fun x => Session.mem_log_of_mem_answer rfl]
  · exact or_iff_right hnone
  · exact fun x hx => absurd hx hnone

theorem sound_primed (hs : s.store = ∅) (hraw : raw.index? = some n)
    (hadmits : ∀ x ∈ server.log, s.admits x = true) (he : e ∈ server.log) (hne : n ≤ e.index) :
    Sound server (primed server s raw) := by
  have hroom : 0 < forwardPageSize := by decide
  obtain ⟨x, hx⟩ := exists_mem_lowestOf (p := (n ≤ ·.index)) hroom he (by simpa using hne)
  have hpage : x ∈ server.answer ⟨n, forwardPageSize, false⟩ :=
    (server.forward ⟨n, forwardPageSize, false⟩ rfl).mem_iff.mpr hx
  have hlog := Session.mem_log_of_mem_answer rfl hpage
  refine ⟨fun y hy => ?_, fun y hy => ?_, ⟨x, ?_⟩, fun r hr => by cases hr⟩
  · exact Session.mem_log_of_mem_answer rfl ((mem_primed hs hraw).mp hy).1
  · simp only [primed, Session.planColdStart, hraw]
    exact hadmits y hy
  · exact (mem_primed hs hraw).mpr ⟨hpage, hadmits x hlog⟩

theorem coming_primed (hs : s.store = ∅) (hraw : raw.index? = some n)
    (hadmits : ∀ x ∈ server.log, s.admits x = true) (he : e ∈ server.log) (hne : n ≤ e.index) :
    Coming server (primed server s raw) e := by
  by_cases hm : e ∈ (primed server s raw).session.store.events
  · exact .inl hm
  · refine .inr (.inl fun x hx => UInt64.not_le.mp fun hex => hm ?_)
    have hpage := ((mem_primed hs hraw).mp hx).1
    exact (mem_primed hs hraw).mpr ⟨FeedServer.mem_answer_of_le rfl hpage he hne hex, hadmits e he⟩

/-- After a run whose pushes come from the log, and then as many polls as the log has events, exactly the
lost events are missing from the priming index on. -/
theorem mem_run_iff_not_lost (server : FeedServer) (hs : s.store = ∅) (hraw : raw.index? = some n)
    (hadmits : ∀ x ∈ server.log, s.admits x = true) {run after : List FeedStep}
    (hrun : ∀ p, .push p ∈ run → p ∈ server.log) (hafter : ∀ p, .push p ∉ after)
    (hpolls : server.log.length ≤ ((primed server s raw).run server run).completed server after)
    (he : e ∈ server.log) (hne : n ≤ e.index) :
    e ∈ ((primed server s raw).run server (run ++ after)).session.store.events ↔
      ¬ Lost server (primed server s raw) (run ++ after) e := by
  have hsound := sound_primed hs hraw hadmits he hne
  have hpush : ∀ p, .push p ∈ run ++ after → p ∈ server.log := fun p hp =>
    (List.mem_append.mp hp).elim (hrun p) fun hp => absurd hp (hafter p)
  refine ⟨fun hm hl => notMem_run_of_lost hsound hpush hl hm, fun hl => ?_⟩
  rcases (coming_primed hs hraw hadmits he hne).run hsound he hpush with hc | hjump
  · refine hc.mem (hsound.run hpush) he ?_
    have hdebt := debt_run_le (hsound.run hrun) hafter
    have hlen := debt_le_length (hsound.run hrun)
    rw [run_append]
    omega
  · obtain ⟨pre, p, post, hsplit, hj⟩ := hjump
    have hpost : .push e ∈ post := by
      by_contra hpost
      exact hl ⟨pre, p, post, hsplit, hj, hpost⟩
    refine mem_run_of_push hsound hpush ?_
    rw [hsplit]
    exact List.mem_append_right _ (List.mem_cons_of_mem _ hpost)

end Primed

def polling (k : Nat) : List FeedStep := (List.replicate k [.ask, .answer]).flatten

theorem push_notMem_polling (k : Nat) (p : Event) : .push p ∉ polling k := by
  intro hm
  obtain ⟨l, hl, hm⟩ := List.mem_flatten.mp hm
  rw [(List.mem_replicate.mp hl).2] at hm
  simp at hm

theorem completed_polling (hf : f.inFlight = none) (k : Nat) :
    f.completed server (polling k) = k := by
  induction k generalizing f with
  | zero => rfl
  | succ k ih =>
    have hsplit : polling (k + 1) = .ask :: .answer :: polling k := by
      simp [polling, List.replicate_succ]
    have hask : f.step server .ask = ⟨f.session, some f.session.planForward⟩ := by simp [step, hf]
    rw [hsplit, completed, completed, hask, ih rfl]
    simp only [completes, Option.isSome_some, if_true]
    omega

def boostsBeyondPage : List Event :=
  (List.range 22).map fun i => { index := .ofNat (i + 1), action := .boost }

theorem boostsBeyondPage_distinct : (boostsBeyondPage.map Event.index).Nodup := by
  decide +kernel

/-- The boost that the priming page leaves out comes by a poll, since the push does not jump over it. -/
theorem mem_run_after_push :
    let e (i : UInt64) : Event := { index := i, action := .boost }
    let server := FeedServer.ascending boostsBeyondPage boostsBeyondPage_distinct
    let start := primed server {} (.number (.natural 1))
    e 22 ∈ (start.run server ([.push (e 21)] ++ polling 22)).session.store.events := by
  intro e server start
  have hpush : ∀ p, .push p ∈ [FeedStep.push (e 21)] → p = e 21 := by simp
  have hlog : e 21 ∈ server.log ∧ e 22 ∈ server.log := by decide +kernel
  apply (mem_run_iff_not_lost (n := 1) server rfl rfl ?_ ?_ (push_notMem_polling 22) ?_ hlog.2 ?_).mpr
  · rintro ⟨pre, p, post, hsplit, ⟨_, hlt, _⟩, _⟩
    have hp : .push p ∈ [.push (e 21)] ++ polling 22 := by
      rw [hsplit]
      simp
    rcases List.mem_append.mp hp with hp | hp
    · rw [hpush p hp] at hlt
      exact absurd hlt (by decide)
    · exact push_notMem_polling 22 p hp
  · decide +kernel
  · exact fun p hp => hpush p hp ▸ hlog.1
  · exact Nat.le_of_eq (completed_polling rfl 22).symm
  · decide

/-- The push of the last boost jumps over the one before it, and no poll goes back. -/
theorem push_loses_event :
    ¬ ∀ (server : FeedServer) (s : Session) (raw : Json.Value) (n : UInt64) (run after : List FeedStep),
      s.store = ∅ → raw.index? = some n → (∀ x ∈ server.log, s.admits x = true) →
      (∀ p, .push p ∈ run → p ∈ server.log) → (∀ p, .push p ∉ after) →
      server.log.length ≤ ((primed server s raw).run server run).completed server after →
      ∀ e ∈ server.log, n ≤ e.index →
        e ∈ ((primed server s raw).run server (run ++ after)).session.store.events := by
  intro hclaim
  let e (i : UInt64) : Event := { index := i, action := .boost }
  let server := FeedServer.ascending boostsBeyondPage boostsBeyondPage_distinct
  let raw : Json.Value := .number (.natural 1)
  have hlog : e 21 ∈ server.log ∧ e 22 ∈ server.log := by decide +kernel
  have hadmits : ∀ x ∈ server.log, ({} : Session).admits x = true := by decide +kernel
  have hpush : ∀ p, .push p ∈ [FeedStep.push (e 22)] → p ∈ server.log := by
    intro p hp
    simp only [List.mem_singleton, FeedStep.push.injEq] at hp
    exact hp ▸ hlog.2
  have hmem := hclaim server {} raw 1 [.push (e 22)] (polling 22) rfl rfl hadmits hpush
    (push_notMem_polling 22) (Nat.le_of_eq (completed_polling rfl 22).symm) (e 21) hlog.1 (by decide)
  have hprimed : ∀ x ∈ (primed server {} raw).session.store.events, x.index < 21 := by
    intro x hx
    obtain ⟨hx, _, hcount⟩ := (FeedServer.mem_answer rfl).mp ((mem_primed (n := 1) rfl rfl).mp hx).1
    have hall : ∀ y ∈ boostsBeyondPage, boostsBeyondPage.countP
        (fun z => decide ((1 : UInt64) ≤ z.index) && z.index < y.index) < forwardPageSize →
          y.index < 21 := by decide +kernel
    exact hall x hx hcount
  have hjump : Jumps server (primed server {} raw) (e 22) (e 21) :=
    ⟨hprimed, by decide, fun r hr => by cases hr⟩
  have hsound : Sound server (primed server {} raw) :=
    sound_primed (n := 1) rfl rfl hadmits hlog.1 (by decide)
  have hrun : ∀ p, .push p ∈ [.push (e 22)] ++ polling 22 → p ∈ server.log := fun p hp =>
    (List.mem_append.mp hp).elim (hpush p) fun hp => absurd hp (push_notMem_polling 22 p)
  exact notMem_run_of_lost hsound hrun
    ⟨[], e 22, polling 22, rfl, hjump, push_notMem_polling 22 (e 21)⟩ hmem

end BoostFeed.Follower
