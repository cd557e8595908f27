import BoostFeed.Proofs.Feed.Insertions
import BoostFeed.Proofs.Session.Page

/-! A page applied again. The first application brings the store, the indicators and the load-more control to a
point from which the same page moves none of them. -/

namespace BoostFeed.Session

open Feed

variable {s : Session} {r : PageRequest} {page : List Event}

theorem insertionTriggers_nil (s : Session) (r : PageRequest) : s.insertionTriggers r [] = [] := by
  have hrequested : s.requestedTriggers r [] = [] := by simp [requestedTriggers]
  simp [insertionTriggers, hrequested]

theorem emptyEffects_of_shown {st : Store} (h : s.showingEmpty = st.isEmpty) : s.emptyEffects r st = [] := by
  unfold emptyEffects
  rw [h]
  cases st.isEmpty <;> rfl

/-- Where a page has put the load-more control, the same page leaves it. -/
theorem nextLoadMore_of_put {t : Session} {st : Store} (h : t.loadMoreCursor = s.nextLoadMore r page st) :
    t.nextLoadMore r page st = t.loadMoreCursor := by
  cases hd : r.direction with
  | backfill =>
    have hsame : t.nextLoadMore r page st = s.nextLoadMore r page st := by simp only [nextLoadMore, hd]
    rw [hsame, h]
  | forward =>
    cases ht : t.loadMoreCursor with
    | some c =>
      -- a control that shows goes to the lowest index, and there it stands
      have hlowest := lowest_of_nextLoadMore (h.symm.trans ht)
      simp only [nextLoadMore, hd, ht, hlowest]
    | none =>
      have hnone : s.nextLoadMore r page st = none := h.symm.trans ht
      simp only [nextLoadMore, hd] at hnone
      simp only [nextLoadMore, hd, ht]
      cases hs : s.loadMoreCursor with
      | some c =>
        have hlowest : st.lowest = none := by simpa only [hs] using hnone
        rw [hlowest]
        rfl
      | none => simpa only [hs] using hnone

/-- A page without new events, that finds the indicators as it would set them, does nothing. -/
theorem applyPage_of_settled (hstore : s.store.merge (s.accepted page) = ([], s.store))
    (hempty : s.showingEmpty = s.store.isEmpty) (hmore : s.nextLoadMore r page s.store = s.loadMoreCursor) :
    s.applyPage r page = ({ dropped := page.length - (s.accepted page).length }, s) := by
  simp [applyPage, hstore, insertionEffects, insertionTriggers_nil, emptyEffects_of_shown hempty,
    loadMoreEffects, hmore, hempty.symm]

/-- The same page again inserts nothing, plays nothing, shows nothing, drops as many events as before and leaves
the session as it is. -/
theorem applyPage_again (s : Session) (r : PageRequest) (page : List Event) :
    let first := s.applyPage r page
    first.2.applyPage r page =
      ({ effects := [], triggers := [], inserted := 0, dropped := first.1.dropped }, first.2) := by
  intro first
  have hstore : first.2.store.merge (first.2.accepted page) = ([], first.2.store) := Store.merge_merge _ _
  have hempty : first.2.showingEmpty = first.2.store.isEmpty := rfl
  exact applyPage_of_settled hstore hempty (nextLoadMore_of_put rfl)

end BoostFeed.Session
