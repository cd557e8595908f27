import BoostFeed.Proofs.Session.FirstPlay

/-! The control for older history after a page of history came empty. A forward page takes a hidden control for one that
has not shown yet, and shows it again wherever the lowest stored event lies above the first index. -/

namespace BoostFeed

open Feed

namespace Session

variable {s : Session} {r : PageRequest} {page : List Event} {cs : List SessionCall} {c i : UInt64}

/-- A page shows the control where it puts it and it has not stood before. -/
theorem showLoadMore_mem_applyPage : .showLoadMore c ∈ (s.applyPage r page).1.effects ↔
    (s.applyPage r page).2.loadMoreCursor = some c ∧ s.loadMoreCursor ≠ some c := by
  have hinserted (mayScroll is) : .showLoadMore c ∉ s.insertionEffects r.direction mayScroll is := by
    apply notMem_insertionEffects <;> simp [insertedEffect]
  have hempty (st : Store) : .showLoadMore c ∉ s.emptyEffects r st := fun h => by simpa using mem_emptyEffects h
  simp only [applyPage, List.mem_append, hinserted, hempty, false_or]
  generalize s.nextLoadMore r page (s.store.merge (s.accepted page)).2 = next
  by_cases hn : next = s.loadMoreCursor
  · simp [loadMoreEffects, hn]
  · cases next <;> grind [loadMoreEffects]

theorem mem_indices_call_of_mem (d : SessionCall) (h : i ∈ s.store.indices) : i ∈ (s.call d).2.store.indices := by
  obtain ⟨x, hx, rfl⟩ := Store.mem_indices.mp h
  have hkeeps : s.Keeps x := .inl hx
  exact (hkeeps.call d).index_mem

/-- What a call stores was stored before, or the call inserts it. -/
theorem mem_indices_call {d : SessionCall} (h : i ∈ (s.call d).2.store.indices) :
    i ∈ s.store.indices ∨ ∃ e, Encounter.Inserts ⟨s, d⟩ e ∧ e.index = i := by
  cases d with
  | planColdStart raw =>
    simp only [call, planColdStart_session] at h
    exact .inl h
  | plan direction => exact .inl h
  | markReplied j =>
    simp only [call, markReplied, Store.indices_markReplied] at h
    exact .inl h
  | applyPage r page =>
    by_cases hi : i ∈ s.store.indices
    · exact .inl hi
    · obtain ⟨x, hx, rfl⟩ := Store.mem_indices.mp h
      rcases mem_or_mem_of_mem_applyPage hx with hs | ⟨hpage, -⟩
      · exact absurd (Store.mem_indices.mpr ⟨x, hs, rfl⟩) hi
      · exact .inr ⟨x, ⟨r, page, rfl, hpage, hi, hx⟩, rfl⟩

theorem mem_indices_calls (h : i ∈ (s.calls cs).2.store.indices) :
    i ∈ s.store.indices ∨ ∃ n ∈ s.encounters cs, ∃ e, n.Inserts e ∧ e.index = i := by
  induction cs generalizing s with
  | nil => exact .inl h
  | cons d cs ih =>
    rcases ih h with h | ⟨n, hn, hinserts⟩
    · exact (mem_indices_call h).imp_right fun hinserts => ⟨_, List.mem_cons_self, hinserts⟩
    · exact .inr ⟨n, List.mem_cons_of_mem _ hn, hinserts⟩

/-- A run that inserts nothing older leaves the lowest index where it is. -/
theorem lowest_calls (h : ∀ n ∈ s.encounters cs, ∀ e, n.Inserts e → ∃ x ∈ s.store.events, x.index ≤ e.index) :
    (s.calls cs).2.store.lowest = s.store.lowest := by
  refine Store.lowest_eq_of_indices (fun i hi => ?_) fun i hi => ?_
  · exact calls_invariant (P := (i ∈ ·.store.indices)) (fun _ d h => mem_indices_call_of_mem d h) hi cs
  · rcases mem_indices_calls hi with hi | ⟨n, hn, e, he, rfl⟩
    · exact ⟨i, hi, UInt64.le_refl i⟩
    · obtain ⟨x, hx, hxe⟩ := h n hn e he
      exact ⟨x.index, Store.mem_indices.mpr ⟨x, hx, rfl⟩, hxe⟩

/-- Where the lowest index stays, a forward page shows the control only if it was hidden. -/
theorem showLoadMore_mem_forward (hr : r.direction = .forward) (hcursor : s.CursorLowest)
    (hlowest : (s.applyPage r page).2.store.lowest = s.store.lowest) :
    .showLoadMore c ∈ (s.applyPage r page).1.effects ↔
      s.store.lowest = some c ∧ 1 < c ∧ s.loadMoreCursor = none := by
  rw [showLoadMore_mem_applyPage]
  cases hc : s.loadMoreCursor with
  | some l =>
    have hnext : (s.applyPage r page).2.loadMoreCursor = s.store.lowest := by
      rw [← hlowest]
      simp only [applyPage, nextLoadMore, hr, hc]
    simp [hnext, hcursor l hc]
  | none =>
    have hnext : (s.applyPage r page).2.loadMoreCursor = s.store.lowest.filter (1 < ·) := by
      rw [← hlowest]
      simp only [applyPage, nextLoadMore, hr, hc]
    simp [hnext, Option.filter_eq_some_iff]

theorem encounters_append (s : Session) (cs ds : List SessionCall) :
    s.encounters (cs ++ ds) = s.encounters cs ++ (s.calls cs).2.encounters ds := by
  induction cs generalizing s with
  | nil => rfl
  | cons c cs ih => simp only [List.cons_append, encounters, ih, calls]

theorem calls_append_session (s : Session) (cs ds : List SessionCall) :
    (s.calls (cs ++ ds)).2 = ((s.calls cs).2.calls ds).2 := by
  induction cs generalizing s with
  | nil => rfl
  | cons c cs ih => exact ih (s.call c).2

/-- A page of history came empty and hid the control, and since then no event has been inserted below all that were stored
then. A forward page shows the control exactly if it finds it hidden and the lowest stored event above the first index,
so only down to that is the end of history remembered. -/
theorem shows_after_end_iff (s : Session) (r : PageRequest) (hr : r.direction = .backfill) (cs : List SessionCall)
    (r' : PageRequest) (hr' : r'.direction = .forward) (page : List Event) :
    let ended := (s.applyPage r []).2
    let met := (ended.calls cs).2
    (∀ n ∈ ended.encounters (cs ++ [.applyPage r' page]), ∀ e, n.Inserts e →
      ∃ x ∈ s.store.events, x.index ≤ e.index) →
    ended.loadMoreCursor = none ∧
    ∀ c, .showLoadMore c ∈ (met.applyPage r' page).1.effects ↔
      s.store.lowest = some c ∧ 1 < c ∧ met.loadMoreCursor = none := by
  intro ended met hold
  have hhidden : ended.loadMoreCursor = none := by simp [ended, applyPage, nextLoadMore, hr]
  have hstore : ended.store = s.store := by simp [ended, accepted, Store.merge]
  have hcursor : met.CursorLowest := CursorLowest.calls (fun _ h => by simp [hhidden] at h) cs
  rw [← hstore] at hold ⊢
  have hlowest : met.store.lowest = ended.store.lowest := by
    apply lowest_calls
    intro n hn
    exact hold n (by simp [encounters_append, hn])
  have hlast : (met.applyPage r' page).2.store.lowest = met.store.lowest := by
    rw [hlowest, ← lowest_calls hold, calls_append_session]
    rfl
  refine ⟨hhidden, fun c => ?_⟩
  rw [showLoadMore_mem_forward hr' hcursor hlast, hlowest]

/-- Where the first index is stored, the end of history is remembered. -/
theorem end_remembered_at_first_index :
    let e (i : UInt64) : Event := { index := i, action := .boost }
    let s : Session := ((fresh .boosts {} [] {}).applyPage (fresh .boosts {} [] {}).planForward [e 1]).2
    let ended := (s.applyPage s.planBackfill []).2
    let cs : List SessionCall := [.applyPage ended.planForward [e 3]]
    let met := (ended.calls cs).2
    (s.planBackfill.direction = .backfill ∧ met.planForward.direction = .forward ∧
      ∀ n ∈ ended.encounters (cs ++ [.applyPage met.planForward [e 2]]), ∀ x, n.Inserts x →
        ∃ y ∈ s.store.events, y.index ≤ x.index) ∧
    ∀ c, .showLoadMore c ∉ (met.applyPage met.planForward [e 2]).1.effects := by
  intro e s ended cs met
  have hold : ∀ n ∈ ended.encounters (cs ++ [.applyPage met.planForward [e 2]]), ∀ x, n.Inserts x →
      ∃ y ∈ s.store.events, y.index ≤ x.index := by
    rintro n hn x ⟨r, page, hcall, hx, -⟩
    refine ⟨e 1, by decide +kernel, ?_⟩
    have hpage : x = e 3 ∨ x = e 2 := by
      rcases List.mem_cons.mp hn with rfl | hn
      · cases hcall
        exact .inl (List.mem_singleton.mp hx)
      · rw [List.mem_singleton.mp hn] at hcall
        cases hcall
        exact .inr (List.mem_singleton.mp hx)
    rcases hpage with rfl | rfl <;> decide
  refine ⟨⟨rfl, rfl, hold⟩, fun c hc => ?_⟩
  obtain ⟨-, hshows⟩ := shows_after_end_iff s s.planBackfill rfl cs met.planForward rfl [e 2] hold
  obtain ⟨hlowest, hone, -⟩ := (hshows c).mp hc
  have hfirst : s.store.lowest = some 1 := by decide +kernel
  rw [hfirst] at hlowest
  cases hlowest
  exact absurd hone (by decide)

/-- Above the first index the next forward page shows the control again, whatever it brings. -/
theorem forward_page_forgets_end :
    ¬ ∀ (s : Session) (r : PageRequest) (cs : List SessionCall) (r' : PageRequest) (page : List Event),
      r.direction = .backfill → r'.direction = .forward →
      let ended := (s.applyPage r []).2
      let met := (ended.calls cs).2
      ended.loadMoreCursor = none →
      (∀ n ∈ ended.encounters (cs ++ [.applyPage r' page]), ∀ e, n.Inserts e →
        ∃ x ∈ s.store.events, x.index ≤ e.index) →
      ∀ c, .showLoadMore c ∉ (met.applyPage r' page).1.effects := by
  intro hclaim
  let e : Event := { index := 150, action := .boost }
  let s : Session := ((fresh .boosts {} [] {}).applyPage (fresh .boosts {} [] {}).planForward [e]).2
  let ended := (s.applyPage s.planBackfill []).2
  have hold : ∀ n ∈ ended.encounters [.applyPage ended.planForward []], ∀ e, n.Inserts e →
      ∃ x ∈ s.store.events, x.index ≤ e.index := by
    rintro n hn e ⟨r, page, hcall, he, -⟩
    rw [List.mem_singleton.mp hn] at hcall
    cases hcall
    cases he
  have hshown : .showLoadMore 150 ∈ (ended.applyPage ended.planForward []).1.effects := by decide +kernel
  exact hclaim s s.planBackfill [] ended.planForward [] rfl rfl rfl hold 150 hshown

end Session

end BoostFeed
