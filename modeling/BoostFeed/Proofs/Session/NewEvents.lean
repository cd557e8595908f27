import Mathlib.Data.List.Permutation
import BoostFeed.Proofs.Feed.Copies
import BoostFeed.Proofs.Session.Page

/-! What a page says of its new events. The store before the page decides: an event above all that is stored there
plays, one that fills a gap is celebrated, whatever stands beside it in the page and in whatever order it came. -/

namespace BoostFeed

open Feed Playback

/-- The index that an effect celebrates. -/
def ViewEffect.celebrated? : ViewEffect → Option UInt64
  | .celebrate index => some index
  | .inserted _ _ _ _ | .scrollToNewest | .showEmpty _ | .hideEmpty | .showLoadMore _ | .hideLoadMore
  | .indexUnavailable _ | .balance _ | .replyMarked _ | .replyFailed _ | .redirectToLogin => none

namespace Session

/-- The events of a page that are new to the session: admitted, of an index that is not stored, of each index the first
copy; ascending. -/
def newEvents (s : Session) (page : List Event) : List Event :=
  (firstCopies s.store.contains (page.filter s.admits)).mergeSort fun a b => a.index ≤ b.index

/-- The admitted events of a page whose index is stored already, or has come earlier in the page. -/
def knownEvents (s : Session) (page : List Event) : List Event :=
  laterCopies s.store.contains (page.filter s.admits)

/-- The new events above all that is stored. -/
def newestEvents (s : Session) (page : List Event) : List Event :=
  (s.newEvents page).filter fun e => s.store.highest.all (· < e.index)

/-- The new events that fill a gap or stand below all that is stored. -/
def lateEvents (s : Session) (page : List Event) : List Event :=
  (s.newEvents page).filter fun e => s.store.highest.any (e.index < ·)

variable {s : Session} {r : PageRequest} {page : List Event}

theorem events_insertions (s : Session) (page : List Event) :
    (s.store.merge (s.accepted page)).1.map Insertion.event = s.newEvents page := by
  rw [Store.events_merge, accepted, firstCopies_mergeSort, newEvents]

/-- Which insertions of a page are the newest is told by the store before the page. -/
theorem isNewest_eq {i : Insertion} (hi : i ∈ (s.store.merge (s.accepted page)).1) :
    i.placement.isNewest = s.store.highest.all (· < i.event.index) := by
  rw [Bool.eq_iff_iff, Store.isNewest_iff (s.ascending_accepted page) hi, Store.all_highest_lt_iff]

theorem newest_insertions (s : Session) (page : List Event) :
    ((s.store.merge (s.accepted page)).1.filter (·.placement.isNewest)).map Insertion.event =
      s.newestEvents page := by
  rw [newestEvents, ← events_insertions, List.filter_map]
  exact congrArg _ (List.filter_congr fun i hi => isNewest_eq hi)

theorem late_insertions (s : Session) (page : List Event) :
    ((s.store.merge (s.accepted page)).1.filter (!·.placement.isNewest)).map Insertion.event =
      s.lateEvents page := by
  rw [lateEvents, ← events_insertions, List.filter_map]
  refine congrArg _ (List.filter_congr fun i hi => ?_)
  rw [isNewest_eq hi, Function.comp, Store.any_highest_gt_of_notMem (Store.index_notMem_of_mem_insertions hi)]

section Effects

variable (s) (is : List Insertion)

theorem insertionEffects_backfill (mayScroll : Bool) :
    s.insertionEffects .backfill mayScroll is = is.map s.insertedEffect := by
  induction is with
  | nil => rfl
  | cons i is ih => simp [insertionEffects, ih]

theorem celebrated_insertionEffects (mayScroll : Bool) :
    (s.insertionEffects .forward mayScroll is).filterMap ViewEffect.celebrated? =
      if s.view.hasEffects then (is.filter (!·.placement.isNewest)).map (·.event.index) else [] := by
  induction is generalizing mayScroll with
  | nil => simp [insertionEffects]
  | cons i is ih =>
    have hrow : (s.insertedEffect i).celebrated? = none := rfl
    have hscroll : ViewEffect.scrollToNewest.celebrated? = none := rfl
    have hcelebrate : (ViewEffect.celebrate i.event.index).celebrated? = some i.event.index := rfl
    cases hn : i.placement.isNewest with
    | true => cases mayScroll <;> simp [insertionEffects, hn, hrow, hscroll, ih]
    | false =>
      have hlater := ih mayScroll
      cases hv : s.view.hasEffects <;> simp [insertionEffects, hn, hv, hrow, hcelebrate, hlater]

theorem count_scroll_insertionEffects (mayScroll : Bool) :
    (s.insertionEffects .forward mayScroll is).count .scrollToNewest =
      if mayScroll && is.any (·.placement.isNewest) then 1 else 0 := by
  induction is generalizing mayScroll with
  | nil => simp [insertionEffects]
  | cons i is ih =>
    have hrow : s.insertedEffect i ≠ .scrollToNewest := by simp [insertedEffect]
    cases hn : i.placement.isNewest with
    | true => cases mayScroll <;> simp [insertionEffects, hn, hrow, ih]
    | false => cases hv : s.view.hasEffects <;> simp [insertionEffects, hn, hv, hrow, ih]

end Effects

theorem requestedTriggers_insertions (s : Session) (r : PageRequest) (page : List Event) :
    s.requestedTriggers r (s.store.merge (s.accepted page)).1 =
      if r.direction = .forward ∧ r.play then (s.newestEvents page).flatMap s.triggersFor else [] := by
  rw [requestedTriggers, ← newest_insertions, List.flatMap_map]

/-- With neither flag set, only what the request itself plays is played. -/
theorem triggers_of_unflagged (hshowing : s.showingEmpty = false) (hawaiting : s.awaitingFirst = false) :
    (s.applyPage r page).1.triggers =
      if r.direction = .forward ∧ r.play then (s.newestEvents page).flatMap s.triggersFor else [] := by
  have hrequested : s.insertionTriggers r (s.store.merge (s.accepted page)).1 =
      s.requestedTriggers r (s.store.merge (s.accepted page)).1 := by
    unfold insertionTriggers
    split
    next hnone => simp [hnone, hshowing, hawaiting]
    next => rfl
  change s.insertionTriggers r (s.store.merge (s.accepted page)).1 = _
  rw [hrequested, requestedTriggers_insertions]

theorem celebrated_applyPage (s : Session) (r : PageRequest) (page : List Event) :
    (s.applyPage r page).1.effects.filterMap ViewEffect.celebrated? =
      if r.direction = .forward ∧ s.view.hasEffects then (s.lateEvents page).map Event.index else [] := by
  rw [filterMap_applyPage (fun _ => rfl) rfl (fun _ => rfl) rfl]
  cases r.direction with
  | forward => simp [celebrated_insertionEffects, ← late_insertions, Function.comp_def]
  | backfill =>
    rw [insertionEffects_backfill, List.filterMap_map, if_neg (by simp), List.filterMap_eq_nil_iff]
    exact fun i _ => rfl

theorem any_isNewest_iff (s : Session) (page : List Event) :
    (s.store.merge (s.accepted page)).1.any (·.placement.isNewest) = true ↔ s.newestEvents page ≠ [] := by
  rw [← newest_insertions, Ne, List.map_eq_nil_iff, List.filter_eq_nil_iff, List.any_eq_true]
  simp

theorem scrolls_applyPage (s : Session) (r : PageRequest) (page : List Event) :
    (s.applyPage r page).1.effects.count .scrollToNewest =
      if r.direction = .forward ∧ s.atNewest ∧ s.newestEvents page ≠ [] then 1 else 0 := by
  have hempty (st : Store) : (s.emptyEffects r st).count .scrollToNewest = 0 :=
    List.count_eq_zero.mpr fun h => by simpa using mem_emptyEffects h
  have hmore (next : Option UInt64) : (s.loadMoreEffects next).count .scrollToNewest = 0 :=
    List.count_eq_zero.mpr fun h => by simpa using mem_loadMoreEffects h
  simp only [applyPage, List.count_append, hempty, hmore, Nat.add_zero]
  cases r.direction with
  | forward => simp [count_scroll_insertionEffects, ← any_isNewest_iff]
  | backfill =>
    rw [insertionEffects_backfill, if_neg (by simp), List.count_eq_zero]
    simp [insertedEffect]

/-- What a page gives, told from the store before it. -/
structure ToldByStore (s : Session) (r : PageRequest) (page : List Event) (a : Applied) : Prop where
  /-- Each new index has come, and its event is the first admitted one that brought it. -/
  first : ∀ e, e ∈ s.newEvents page ↔
    e.index ∉ s.store.indices ∧ (page.filter s.admits).find? (·.index == e.index) = some e
  ascending : (s.newEvents page).Pairwise (fun a b => a.index < b.index)
  rows : a.effects.filterMap ViewEffect.row? = (s.newEvents page).map s.row
  triggers : a.triggers =
    if r.direction = .forward ∧ r.play then (s.newestEvents page).flatMap s.triggersFor else []
  celebrated : a.effects.filterMap ViewEffect.celebrated? =
    if r.direction = .forward ∧ s.view.hasEffects then (s.lateEvents page).map Event.index else []
  scrolls : a.effects.count .scrollToNewest =
    if r.direction = .forward ∧ s.atNewest ∧ s.newestEvents page ≠ [] then 1 else 0
  inserted : a.inserted = (s.newEvents page).length
  dropped : a.dropped = page.countP (!s.admits ·)
  total : a.inserted + a.dropped + (s.knownEvents page).length = page.length

theorem mem_newEvents {e : Event} : e ∈ s.newEvents page ↔
    e.index ∉ s.store.indices ∧ (page.filter s.admits).find? (·.index == e.index) = some e := by
  rw [newEvents, List.mem_mergeSort, mem_firstCopies, Store.contains_eq_false_iff]

theorem ascending_newEvents (s : Session) (page : List Event) :
    (s.newEvents page).Pairwise (fun a b => a.index < b.index) := by
  rw [← events_insertions]
  exact List.pairwise_map.mpr (Store.insertions_increasing (s.ascending_accepted page))

theorem countP_admits_add (s : Session) (page : List Event) :
    page.countP s.admits + page.countP (!s.admits ·) = page.length := by
  simpa using (List.length_eq_countP_add_countP s.admits (l := page)).symm

theorem dropped_applyPage (s : Session) (r : PageRequest) (page : List Event) :
    (s.applyPage r page).1.dropped = page.countP (!s.admits ·) := by
  have hsplit := s.countP_admits_add page
  have haccepted : (s.accepted page).length = page.countP s.admits := by
    rw [accepted, List.length_mergeSort, List.countP_eq_length_filter]
  change page.length - (s.accepted page).length = _
  omega

theorem inserted_applyPage (s : Session) (r : PageRequest) (page : List Event) :
    (s.applyPage r page).1.inserted = (s.newEvents page).length := by
  rw [← events_insertions, List.length_map]
  rfl

theorem length_newEvents_add (s : Session) (page : List Event) :
    (s.newEvents page).length + (s.knownEvents page).length = page.countP s.admits := by
  rw [newEvents, List.length_mergeSort, knownEvents, length_firstCopies_add, List.countP_eq_length_filter]

/-- Where no first events are awaited, the store before a page decides what it plays, celebrates and scrolls to: going
forward its new events above all that is stored play if the request lets them, and those that come late are
celebrated; going back none of this happens. Every new event has a row, and every event of the page is counted. -/
theorem new_events_told_by_store (s : Session) (r : PageRequest) (page : List Event)
    (hshowing : s.showingEmpty = false) (hawaiting : s.awaitingFirst = false) :
    ToldByStore s r page (s.applyPage r page).1 where
  first _ := mem_newEvents
  ascending := s.ascending_newEvents page
  rows := by
    rw [rows_applyPage, ← events_insertions, List.map_map]
    rfl
  triggers := triggers_of_unflagged hshowing hawaiting
  celebrated := s.celebrated_applyPage r page
  scrolls := s.scrolls_applyPage r page
  inserted := s.inserted_applyPage r page
  dropped := s.dropped_applyPage r page
  total := by
    have hsplit := s.countP_admits_add page
    have hadmitted := s.length_newEvents_add page
    rw [inserted_applyPage, dropped_applyPage]
    omega

/-- An unsorted page of two boosts above the stored ones, one between them, a copy, a stored one and a stream. -/
theorem unsorted_page_told_by_store :
    let e (i : UInt64) : Event := { index := i, action := .boost }
    let s : Session := { store := ((∅ : Store).merge [e 10, e 20]).2 }
    let page := [e 22, e 15, e 21, { e 22 with sender := "again" }, e 10, { e 30 with action := .stream }]
    (s.showingEmpty = false ∧ s.awaitingFirst = false) ∧
    ToldByStore s s.planForward page (s.applyPage s.planForward page).1 ∧
    (s.newestEvents page = [e 21, e 22] ∧ s.lateEvents page = [e 15] ∧
      s.knownEvents page = [{ e 22 with sender := "again" }, e 10]) := by
  intro e s page
  exact ⟨⟨rfl, rfl⟩, new_events_told_by_store s s.planForward page rfl rfl, by cbv⟩

end Session

end BoostFeed
