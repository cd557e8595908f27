import BoostFeed.Proofs.Session.Page

/-! The two flags that let a page play whatever it asks for. A page leaves them set over nothing but an empty store, and
where they are so set, history that comes to stored events is silent. -/

namespace BoostFeed

open Feed

namespace Session

variable {s : Session} {r : PageRequest} {page : List Event}

/-- The empty indicator shows over nothing but an empty store. -/
def IndicatesEmpty (s : Session) : Prop := s.showingEmpty = true → s.store.isEmpty = true

/-- The first events are awaited only while none is stored. -/
def AwaitsInEmpty (s : Session) : Prop := s.awaitingFirst = true → s.store.isEmpty = true

theorem indicatesEmpty_applyPage : (s.applyPage r page).2.IndicatesEmpty := id

theorem AwaitsInEmpty.applyPage (h : s.AwaitsInEmpty) : (s.applyPage r page).2.AwaitsInEmpty := by
  intro ha
  obtain ⟨hawaiting, hnone⟩ := Bool.and_eq_true_iff.mp ha
  rw [store_applyPage, Store.merge_of_no_insertion (List.isEmpty_iff.mp hnone)]
  exact h hawaiting

theorem isEmpty_markReplied (i : UInt64) : (s.markReplied i).2.store.isEmpty = s.store.isEmpty :=
  List.isEmpty_map

/-- A page of history plays nothing of its own accord. -/
theorem triggers_backfill (hr : r.direction = .backfill) (hs : s.showingEmpty = false)
    (ha : s.awaitingFirst = false) : (s.applyPage r page).1.triggers = [] := by
  simp [applyPage, insertionTriggers, requestedTriggers, hr, hs, ha]

theorem triggers_backfill_of_not_isEmpty (hr : r.direction = .backfill) (hindicates : s.IndicatesEmpty)
    (hawaits : s.AwaitsInEmpty) (hstore : s.store.isEmpty = false) :
    (s.applyPage r page).1.triggers = [] := by
  have hs : s.showingEmpty = false := Bool.eq_false_iff.mpr fun h => by simp [hindicates h] at hstore
  have ha : s.awaitingFirst = false := Bool.eq_false_iff.mpr fun h => by simp [hawaits h] at hstore
  exact triggers_backfill hr hs ha

end Session

end BoostFeed
