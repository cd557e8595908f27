import BoostFeed.Proofs.Feed.Log
import BoostFeed.Proofs.Feed.Merge
import BoostFeed.Session.Apply

/-! What planning and a page leave alone, and which events of a page a session takes. The filter depends only on the view
and the least amount, which no page changes, so a run of pages filters all of them alike. -/

namespace BoostFeed

open Feed

/-- The row that an effect brings. -/
def ViewEffect.row? : ViewEffect → Option Row
  | .inserted row _ _ _ => some row
  | .scrollToNewest | .celebrate _ | .showEmpty _ | .hideEmpty | .showLoadMore _ | .hideLoadMore
  | .indexUnavailable _ | .balance _ | .replyMarked _ | .replyFailed _ | .redirectToLogin => none

namespace Session

def row (s : Session) (e : Event) : Row :=
  Row.ofEvent e s.view s.rules s.apps s.settings.showReceivedSats

variable (s : Session) (r : PageRequest) (page : List Event)

@[simp]
theorem store_applyPage :
    (s.applyPage r page).2.store = (s.store.merge (s.accepted page)).2 := rfl

@[simp]
theorem admits_applyPage : (s.applyPage r page).2.admits = s.admits := rfl

/-- A reading of the index sets the cursor, and an unusable one lets the first events play. -/
theorem planColdStart_session (raw : Json.Value) :
    (s.planColdStart raw).2.2 =
      { s with currentIndex := raw.index?, awaitingFirst := s.awaitingFirst || raw.index?.isNone } := by
  cases h : raw.index? <;> simp [planColdStart, h]

theorem planColdStart_index (raw : Json.Value) : (s.planColdStart raw).1.query.index = raw.index?.getD 1 := by
  cases h : raw.index? <;> simp [planColdStart, h]

variable {s r page}

@[simp]
theorem mem_accepted {e : Event} : e ∈ s.accepted page ↔ e ∈ page ∧ s.admits e = true := by
  simp [accepted, List.mem_mergeSort]

theorem ascending_accepted (s : Session) (page : List Event) :
    (s.accepted page).Pairwise (fun a b => a.index ≤ b.index) :=
  ascending_mergeSort _

theorem accepted_of_ascending (h : page.Pairwise (fun a b => a.index ≤ b.index)) :
    s.accepted page = page.filter s.admits := by
  apply List.mergeSort_of_pairwise
  exact (h.filter s.admits).imp fun hab => by simpa using hab

theorem mem_applyPage_of_mem {e : Event} (h : e ∈ s.store.events) :
    e ∈ (s.applyPage r page).2.store.events :=
  Store.mem_merge_of_mem _ h

theorem mem_or_mem_of_mem_applyPage {e : Event} (h : e ∈ (s.applyPage r page).2.store.events) :
    e ∈ s.store.events ∨ e ∈ page ∧ s.admits e = true :=
  (Store.mem_or_mem_of_mem_merge h).imp_right mem_accepted.mp

theorem mem_indices_applyPage {i : UInt64} :
    i ∈ (s.applyPage r page).2.store.indices ↔
      i ∈ s.store.indices ∨ ∃ e ∈ page, s.admits e = true ∧ e.index = i := by
  simp [Store.mem_indices_merge, and_assoc]

/-- Of the effects of new events, a reading that passes over scrolling and celebrating sees the insertions. -/
theorem filterMap_insertionEffects {α : Type} {f : ViewEffect → Option α} (hscroll : f .scrollToNewest = none)
    (hcelebrate : ∀ i, f (.celebrate i) = none) (s : Session) (direction : Direction) (mayScroll : Bool)
    (is : List Insertion) :
    (s.insertionEffects direction mayScroll is).filterMap f = is.filterMap fun i => f (s.insertedEffect i) := by
  induction is generalizing mayScroll with
  | nil => rfl
  | cons i is ih =>
    cases direction with
    | backfill => simp [insertionEffects, List.filterMap_cons, ih]
    | forward =>
      cases hn : i.placement.isNewest with
      | true => cases mayScroll <;> simp [insertionEffects, hn, List.filterMap_cons, hscroll, ih]
      | false =>
        cases hv : s.view.hasEffects <;> simp [insertionEffects, hn, hv, List.filterMap_cons, hcelebrate, ih]

/-- New events bring rows, scrolling and celebrating, and nothing else. -/
theorem notMem_insertionEffects {e : ViewEffect} (hinserted : ∀ i, e ≠ s.insertedEffect i)
    (hscroll : e ≠ .scrollToNewest) (hcelebrate : ∀ i, e ≠ .celebrate i) (direction : Direction) (mayScroll : Bool)
    (is : List Insertion) : e ∉ s.insertionEffects direction mayScroll is := by
  -- a reading that sees this effect alone sees nothing
  let seen (e' : ViewEffect) : Option ViewEffect := if e' = e then some e' else none
  have hnone : (s.insertionEffects direction mayScroll is).filterMap seen = [] := by
    rw [filterMap_insertionEffects (if_neg hscroll.symm) fun i => if_neg (hcelebrate i).symm,
      List.filterMap_eq_nil_iff]
    exact fun i _ => if_neg (hinserted i).symm
  intro he
  have hseen := List.filterMap_eq_nil_iff.mp hnone _ he
  simp [seen] at hseen

theorem mem_emptyEffects {e : ViewEffect} {st : Store} (h : e ∈ s.emptyEffects r st) :
    e = .showEmpty r.query.index ∨ e = .hideEmpty := by
  unfold emptyEffects at h
  split at h <;> simp_all

theorem mem_loadMoreEffects {e : ViewEffect} {next : Option UInt64} (h : e ∈ s.loadMoreEffects next) :
    (∃ cursor, e = .showLoadMore cursor) ∨ e = .hideLoadMore := by
  unfold loadMoreEffects at h
  split at h
  · cases h
  · cases next <;> simp_all

/-- A page brings what its new events bring and moves the indicators, and nothing else. -/
theorem notMem_applyPage {e : ViewEffect} (hinserted : ∀ i, e ≠ s.insertedEffect i) (hscroll : e ≠ .scrollToNewest)
    (hcelebrate : ∀ i, e ≠ .celebrate i) (hshow : ∀ i, e ≠ .showEmpty i) (hhide : e ≠ .hideEmpty)
    (hshowMore : ∀ c, e ≠ .showLoadMore c) (hhideMore : e ≠ .hideLoadMore) (r : PageRequest) (page : List Event) :
    e ∉ (s.applyPage r page).1.effects := by
  have hempty (st : Store) : e ∉ s.emptyEffects r st := fun h => (mem_emptyEffects h).elim (hshow _) hhide
  have hmore (next : Option UInt64) : e ∉ s.loadMoreEffects next := fun h =>
    (mem_loadMoreEffects h).elim (fun ⟨c, hc⟩ => hshowMore c hc) hhideMore
  simp [applyPage, notMem_insertionEffects hinserted hscroll hcelebrate, hempty, hmore]

/-- A reading that passes over the indicators sees of a page what its new events bring. -/
theorem filterMap_applyPage {α : Type} {f : ViewEffect → Option α} (hshow : ∀ i, f (.showEmpty i) = none)
    (hhide : f .hideEmpty = none) (hshowMore : ∀ c, f (.showLoadMore c) = none) (hhideMore : f .hideLoadMore = none)
    (s : Session) (r : PageRequest) (page : List Event) :
    (s.applyPage r page).1.effects.filterMap f =
      (s.insertionEffects r.direction s.atNewest (s.store.merge (s.accepted page)).1).filterMap f := by
  have hempty (st : Store) : (s.emptyEffects r st).filterMap f = [] :=
    List.filterMap_eq_nil_iff.mpr fun e he => by
      rcases mem_emptyEffects he with rfl | rfl
      · exact hshow _
      · exact hhide
  have hmore (next : Option UInt64) : (s.loadMoreEffects next).filterMap f = [] :=
    List.filterMap_eq_nil_iff.mpr fun e he => by
      rcases mem_loadMoreEffects he with ⟨c, rfl⟩ | rfl
      · exact hshowMore c
      · exact hhideMore
  simp only [applyPage, List.filterMap_append, hempty, hmore, List.append_nil]

/-- The rows of a page are those of its insertions. -/
theorem rows_applyPage (s : Session) (r : PageRequest) (page : List Event) :
    (s.applyPage r page).1.effects.filterMap ViewEffect.row? =
      (s.store.merge (s.accepted page)).1.map fun i => s.row i.event := by
  rw [filterMap_applyPage (fun _ => rfl) rfl (fun _ => rfl) rfl, filterMap_insertionEffects rfl fun _ => rfl]
  exact congrFun (List.filterMap_eq_map' (f := fun i : Insertion => s.row i.event)) _

theorem lowest_of_nextLoadMore {st : Store} {cursor : UInt64}
    (h : s.nextLoadMore r page st = some cursor) : st.lowest = some cursor := by
  unfold nextLoadMore at h
  split at h
  · split at h
    · exact h
    · cases h
  · split at h
    · exact h
    · exact (Option.filter_eq_some_iff.mp h).1

end Session

end BoostFeed
