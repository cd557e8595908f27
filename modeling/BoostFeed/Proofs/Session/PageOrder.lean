import BoostFeed.Proofs.Session.NewEvents

/-! The order in which a page lists its events. A page acts on a session through its new events alone, and the order
decides which events are new only between different copies of one index. -/

namespace BoostFeed.Session

open Feed

variable {s : Session} {r : PageRequest} {page page' : List Event}

theorem merge_newEvents (s : Session) (page : List Event) :
    s.store.merge (s.newEvents page) = s.store.merge (s.accepted page) := by
  rw [newEvents, ← firstCopies_mergeSort, ← accepted, Store.merge_firstCopies]

/-- The new events of a page can be told from the sessions before and after it. -/
theorem newEvents_eq_gained (s : Session) (r : PageRequest) (page : List Event) :
    s.newEvents page = (s.applyPage r page).2.store.events.filter fun e => !s.store.contains e.index := by
  rw [← events_insertions, Store.events_insertions (s.ascending_accepted page), store_applyPage]

/-- Two orders of a page are applied alike exactly if they bring the same new events. -/
theorem applyPage_eq_iff_of_perm (hp : page.Perm page') :
    s.applyPage r page = s.applyPage r page' ↔ s.newEvents page = s.newEvents page' := by
  constructor
  · intro h
    rw [newEvents_eq_gained s r, newEvents_eq_gained s r, h]
  · intro hnew
    have hmerge : s.store.merge (s.accepted page) = s.store.merge (s.accepted page') := by
      rw [← merge_newEvents, hnew, merge_newEvents]
    have hmore : s.nextLoadMore r page = s.nextLoadMore r page' := by
      funext store
      simp only [nextLoadMore, hp.isEmpty_eq]
    have haccepted : (s.accepted page).length = (s.accepted page').length := by
      rw [accepted, accepted, List.length_mergeSort, List.length_mergeSort, (hp.filter _).length_eq]
    simp only [applyPage, hmerge, hmore, haccepted, hp.length_eq]

/-- Where copies of an index agree, it does not matter which of them comes first. -/
theorem newEvents_of_perm (hp : page.Perm page') (hcopies : ∀ a ∈ page, ∀ b ∈ page, a.index = b.index → a = b) :
    s.newEvents page = s.newEvents page' := by
  have hfirst {q : List Event} (hq : q.Perm page) (e : Event) :
      (q.filter s.admits).find? (·.index == e.index) = some e ↔ e ∈ page.filter s.admits := by
    have hmem {x : Event} : x ∈ q.filter s.admits ↔ x ∈ page.filter s.admits := (hq.filter _).mem_iff
    constructor
    · intro hfind
      exact hmem.mp (List.mem_of_find?_eq_some hfind)
    · intro he
      obtain ⟨x, hx⟩ : ∃ x, (q.filter s.admits).find? (·.index == e.index) = some x := by
        rw [← Option.isSome_iff_exists, List.find?_isSome]
        exact ⟨e, hmem.mpr he, by simp⟩
      have hxe : x = e :=
        hcopies x (List.mem_filter.mp (hmem.mp (List.mem_of_find?_eq_some hx))).1 e (List.mem_filter.mp he).1
          (by simpa using List.find?_some hx)
      rw [hx, hxe]
  apply Store.eq_of_increasing (s.ascending_newEvents page) (s.ascending_newEvents page')
  intro e
  rw [mem_newEvents, mem_newEvents, hfirst (.refl page), hfirst hp.symm]

/-- A page is applied alike in every order of its events, as long as its copies of one index are one event: the same
effects and triggers in the same order, the same counts and the same session. -/
theorem applyPage_of_perm (s : Session) (r : PageRequest) (hp : page.Perm page')
    (hcopies : ∀ a ∈ page, ∀ b ∈ page, a.index = b.index → a = b) : s.applyPage r page = s.applyPage r page' :=
  (applyPage_eq_iff_of_perm hp).mpr (newEvents_of_perm hp hcopies)

/-- A page newest first, with a copy, a stored index, a stream and an event that fills a gap, and its reverse. -/
theorem applyPage_newest_first :
    let e (i : UInt64) : Event := { index := i, action := .boost }
    let s : Session := { store := ((∅ : Store).merge [e 10, e 20]).2 }
    let page := [e 22, { e 21 with action := .stream }, e 20, e 15, e 15]
    (page.Perm page.reverse ∧ ∀ a ∈ page, ∀ b ∈ page, a.index = b.index → a = b) ∧
    s.newEvents page = [e 15, e 22] ∧ s.applyPage s.planForward page = s.applyPage s.planForward page.reverse := by
  intro e s page
  have hp : page.Perm page.reverse := page.reverse_perm.symm
  have hcopies : ∀ a ∈ page, ∀ b ∈ page, a.index = b.index → a = b := by decide
  exact ⟨⟨hp, hcopies⟩, by cbv, applyPage_of_perm s s.planForward hp hcopies⟩

end BoostFeed.Session
