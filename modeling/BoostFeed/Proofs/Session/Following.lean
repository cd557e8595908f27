import BoostFeed.Proofs.Session.Follower

/-! Which events a session that polls and takes pushes ends with. A push may raise the highest stored index
over events that no page has brought yet. No later page goes back to them, so unless they are pushed
themselves they are lost; everything else from the priming index on arrives. -/

namespace BoostFeed.Follower

open Feed

variable {server : FeedServer} {f : Follower} {e p : Event}

/-- A push of `p` jumps over an event: the event lies above all stored ones and below `p`, and the page under
way does not bring it. -/
def Jumps (server : FeedServer) (f : Follower) (p e : Event) : Prop :=
  (∀ x ∈ f.session.store.events, x.index < e.index) ∧ e.index < p.index ∧
    ∀ r, f.inFlight = some r → e ∉ server.answer r.query

/-- Some push of a run jumps over an event that is not pushed later. -/
def Lost (server : FeedServer) (f : Follower) (steps : List FeedStep) (e : Event) : Prop :=
  ∃ pre p post, steps = pre ++ .push p :: post ∧ Jumps server (f.run server pre) p e ∧
    .push e ∉ post

/-- An event that is stored, or that a page planned now or the page under way may still bring. -/
def Coming (server : FeedServer) (f : Follower) (e : Event) : Prop :=
  e ∈ f.session.store.events ∨ (∀ x ∈ f.session.store.events, x.index < e.index) ∨
    ∃ r, f.inFlight = some r ∧ e ∈ server.answer r.query

theorem Coming.push (h : Sound server f) (hc : Coming server f e) (he : e ∈ server.log)
    (hp : p ∈ server.log) :
    Coming server (f.step server (.push p)) e ∨ Jumps server f p e := by
  rcases hc with hm | habove | hpage
  · exact .inl (.inl (mem_step_of_mem _ hm))
  · by_cases hpage : ∃ r, f.inFlight = some r ∧ e ∈ server.answer r.query
    · exact .inl (.inr (.inr hpage))
    · by_cases hep : e.index < p.index
      · exact .inr ⟨habove, hep, fun r hr hm => hpage ⟨r, hr, hm⟩⟩
      · left
        by_cases heq : p.index = e.index
        · exact .inl ((mem_push h hp).mpr (.inr (FeedServer.eq_of_index_eq he hp heq.symm)))
        · have hpe : p.index < e.index := UInt64.lt_of_le_of_ne (UInt64.not_lt.mp hep) heq
          refine .inr (.inl fun x hx => ?_)
          rcases (mem_push h hp).mp hx with hx | rfl
          · exact habove x hx
          · exact hpe
  · exact .inl (.inr (.inr hpage))

theorem Coming.ask (hc : Coming server f e) : Coming server (f.step server .ask) e := by
  cases hf : f.inFlight with
  | some r => simpa only [step, hf] using hc
  | none =>
    simp only [step, hf]
    rcases hc with hm | habove | ⟨r, hr, _⟩
    · exact .inl hm
    · exact .inr (.inl habove)
    · rw [hf] at hr
      cases hr

theorem Coming.answer (h : Sound server f) (hc : Coming server f e) (he : e ∈ server.log) :
    Coming server (f.step server .answer) e := by
  cases hf : f.inFlight with
  | none => simpa only [step, hf] using hc
  | some r =>
    by_cases hpage : e ∈ server.answer r.query
    · exact .inl ((mem_answered h hf).mpr (.inr hpage))
    · rcases hc with hm | habove | ⟨r', hr', hpage'⟩
      · exact .inl (mem_step_of_mem _ hm)
      · -- a page that reaches above the event would have brought it
        refine .inr (.inl fun x hx => ?_)
        rcases (mem_answered h hf).mp hx with hx | hx
        · exact habove x hx
        · obtain ⟨hold, y, hy, hry⟩ := h.request r hf
          have hre : r.query.index ≤ e.index :=
            UInt64.le_of_lt (UInt64.lt_of_le_of_lt hry (habove y hy))
          exact UInt64.not_le.mp fun hex => hpage (FeedServer.mem_answer_of_le hold hx he hre hex)
      · rw [hf] at hr'
        cases hr'
        exact absurd hpage' hpage

/-- Over a run, what can still come does, or a push jumps over it. -/
theorem Coming.run (h : Sound server f) (hc : Coming server f e) (he : e ∈ server.log)
    {steps : List FeedStep} (hp : ∀ p, .push p ∈ steps → p ∈ server.log) :
    Coming server (f.run server steps) e ∨
      ∃ pre p post, steps = pre ++ .push p :: post ∧ Jumps server (f.run server pre) p e := by
  induction steps generalizing f with
  | nil => exact .inl hc
  | cons st steps ih =>
    have hst : ∀ p, st = .push p → p ∈ server.log := fun p hst => hp p (hst ▸ List.mem_cons_self)
    have hlater (hc' : Coming server (f.step server st) e) :
        Coming server (f.run server (st :: steps)) e ∨ ∃ pre p post,
          st :: steps = pre ++ .push p :: post ∧ Jumps server (f.run server pre) p e := by
      rcases ih (h.step hst) hc' fun p hm => hp p (List.mem_cons_of_mem st hm) with hend | hjump
      · exact .inl hend
      · obtain ⟨pre, p, post, rfl, hj⟩ := hjump
        exact .inr ⟨st :: pre, p, post, rfl, hj⟩
    cases st with
    | push p =>
      rcases hc.push h he (hst p rfl) with hc' | hj
      · exact hlater hc'
      · exact .inr ⟨[], p, steps, rfl, hj⟩
    | ask => exact hlater hc.ask
    | answer => exact hlater (hc.answer h he)

theorem mem_run_of_push (h : Sound server f) {steps : List FeedStep}
    (hp : ∀ p, .push p ∈ steps → p ∈ server.log) (he : .push e ∈ steps) :
    e ∈ (f.run server steps).session.store.events := by
  obtain ⟨pre, post, rfl⟩ := List.append_of_mem he
  have hpre : Sound server (f.run server pre) :=
    h.run fun p hm => hp p (List.mem_append_left _ hm)
  rw [run_append]
  exact mem_run_of_mem post ((mem_push hpre (hp e he)).mpr (.inr rfl))

/-- An event that only a push still brings: the store reaches above it without it. -/
structure Passed (server : FeedServer) (f : Follower) (e : Event) : Prop where
  missing : e ∉ f.session.store.events
  below : ∃ x ∈ f.session.store.events, e.index < x.index
  page : ∀ r, f.inFlight = some r → e ∉ server.answer r.query

theorem Jumps.passed (h : Sound server f) (hp : p ∈ server.log) (hj : Jumps server f p e) :
    Passed server (f.step server (.push p)) e := by
  obtain ⟨habove, hep, hpage⟩ := hj
  refine ⟨fun hm => ?_, ⟨p, (mem_push h hp).mpr (.inr rfl), hep⟩, hpage⟩
  rcases (mem_push h hp).mp hm with hm | rfl
  · exact UInt64.lt_irrefl _ (habove e hm)
  · exact UInt64.lt_irrefl _ hep

theorem Passed.step (h : Sound server f) (hpass : Passed server f e) {st : FeedStep}
    (hst : ∀ p, st = .push p → p ∈ server.log) (hne : st ≠ .push e) :
    Passed server (f.step server st) e := by
  have hbelow : ∃ x ∈ (f.step server st).session.store.events, e.index < x.index :=
    hpass.below.imp fun _ hx => ⟨mem_step_of_mem st hx.1, hx.2⟩
  cases st with
  | push p =>
    refine ⟨fun hm => ?_, hbelow, hpass.page⟩
    rcases (mem_push h (hst p rfl)).mp hm with hm | rfl
    · exact hpass.missing hm
    · exact hne rfl
  | ask =>
    cases hf : f.inFlight with
    | some r => simpa only [Follower.step, hf] using hpass
    | none =>
      simp only [Follower.step, hf]
      refine ⟨hpass.missing, hpass.below, fun r hr hm => ?_⟩
      cases hr
      obtain ⟨x, _, hq, hle⟩ := exists_query h
      obtain ⟨y, hy, hey⟩ := hpass.below
      have hxe : x.index ≤ e.index := by simpa only [hq] using ((FeedServer.mem_answer rfl).mp hm).2.1
      exact UInt64.not_lt.mpr hxe (UInt64.lt_of_lt_of_le hey (hle y hy))
  | answer =>
    cases hf : f.inFlight with
    | none => simpa only [Follower.step, hf] using hpass
    | some r =>
      refine ⟨fun hm => ?_, hbelow, by simp [Follower.step, hf]⟩
      rcases (mem_answered h hf).mp hm with hm | hm
      · exact hpass.missing hm
      · exact hpass.page r hf hm

theorem Passed.run (h : Sound server f) (hpass : Passed server f e) {steps : List FeedStep}
    (hp : ∀ p, .push p ∈ steps → p ∈ server.log) (he : .push e ∉ steps) :
    Passed server (f.run server steps) e := by
  induction steps generalizing f with
  | nil => exact hpass
  | cons st steps ih =>
    have hst : ∀ p, st = .push p → p ∈ server.log := fun p hst => hp p (hst ▸ List.mem_cons_self)
    have hne : st ≠ .push e := fun hst => he (hst ▸ List.mem_cons_self)
    exact ih (h.step hst) (hpass.step h hst hne) (fun p hm => hp p (List.mem_cons_of_mem st hm))
      fun hm => he (List.mem_cons_of_mem st hm)

theorem notMem_run_of_lost (h : Sound server f) {steps : List FeedStep}
    (hp : ∀ p, .push p ∈ steps → p ∈ server.log) (hl : Lost server f steps e) :
    e ∉ (f.run server steps).session.store.events := by
  obtain ⟨pre, p, post, rfl, hj, hpost⟩ := hl
  have hpre : Sound server (f.run server pre) :=
    h.run fun p hm => hp p (List.mem_append_left _ hm)
  have hmid : p ∈ server.log := hp p (by simp)
  rw [run_append]
  refine (Passed.run (hpre.step ?_) (hj.passed hpre hmid) (fun p hm => hp p (by simp [hm])) hpost).missing
  rintro q ⟨⟩
  exact hmid

end BoostFeed.Follower
