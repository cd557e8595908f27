import Mathlib.Algebra.GroupWithZero.Nat
import BoostFeed.Proofs.Feed.Insertions
import BoostFeed.Proofs.Session.Indicators
import BoostFeed.Service.Reconciler

/-! Pushes and polls. Ascending events may come in one forward page or be cut into several, down to pages of one event as
pushes bring them: the same rows are shown and celebrated, the same triggers play, and the session ends the same but
for the load-more control, which a page of dropped events may show where none has shown before. -/

namespace BoostFeed

open Feed Playback

/-- Whether an effect shows a new row or celebrates one. -/
def ViewEffect.isOfRow : ViewEffect → Bool
  | .inserted _ _ _ _ | .celebrate _ => true
  | .scrollToNewest | .showEmpty _ | .hideEmpty | .showLoadMore _ | .hideLoadMore | .indexUnavailable _
  | .balance _ | .replyMarked _ | .replyFailed _ | .redirectToLogin => false

namespace Session

/-- Pages applied one after the other, each under a forward request planned then, with what each of them gives. -/
def follow (s : Session) : List (List Event) → List Applied × Session
  | [] => ([], s)
  | page :: pages =>
    let (applied, s) := s.applyPage s.planForward page
    let (later, s) := s.follow pages
    (applied :: later, s)

/-- Events pushed one by one. -/
def pushEach (s : Session) (events : List Event) : List Applied × Session := s.follow (events.map ([·]))

/-- Several pages together give what one page gives, and lead to the same session but for the load-more control. -/
structure AddsUp (several : List Applied × Session) (one : Applied × Session) : Prop where
  session : { several.2 with loadMoreCursor := none } = { one.2 with loadMoreCursor := none }
  triggers : several.1.flatMap Applied.triggers = one.1.triggers
  rows : (several.1.flatMap Applied.effects).filter ViewEffect.isOfRow = one.1.effects.filter ViewEffect.isOfRow
  inserted : (several.1.map Applied.inserted).sum = one.1.inserted
  dropped : (several.1.map Applied.dropped).sum = one.1.dropped

variable {s : Session} {page page' : List Event}

/-- A forward page plays its new events above all others. The flags add nothing: over an empty store these are all of
its new events. -/
theorem triggers_planForward (hindicates : s.IndicatesEmpty) (hawaits : s.AwaitsInEmpty) (page : List Event) :
    (s.applyPage s.planForward page).1.triggers =
      ((s.store.merge (s.accepted page)).1.filter (·.placement.isNewest)).flatMap
        fun i => s.triggersFor i.event := by
  let is := (s.store.merge (s.accepted page)).1
  have hrequested : s.requestedTriggers s.planForward is =
      (is.filter (·.placement.isNewest)).flatMap fun i => s.triggersFor i.event := by
    simp [requestedTriggers, planForward]
  change s.insertionTriggers s.planForward is = _
  rw [← hrequested]
  unfold insertionTriggers
  split
  next hnone =>
    rw [hnone]
    split
    next hflag =>
      have hempty : s.store.isEmpty = true := (Bool.or_eq_true_iff.mp hflag).elim hindicates hawaits
      have hnil : s.store.events = [] := List.isEmpty_iff.mp hempty
      cases hlast : is.getLast? with
      | none => rfl
      | some i =>
        have hi : i ∈ is := List.mem_of_getLast? hlast
        have hnewest : i.placement.isNewest = true :=
          Store.isNewest_of_ascending (s.ascending_accepted page) (by simp [hnil]) hi
        rw [hrequested, List.flatMap_eq_nil_iff] at hnone
        exact hnone i (List.mem_filter.mpr ⟨hi, hnewest⟩)
    next => rfl
  next => rfl

/-- The effects of new events that show on their rows. -/
def rowEffects (s : Session) (is : List Insertion) : List ViewEffect :=
  is.flatMap fun i =>
    s.insertedEffect i ::
      if !i.placement.isNewest && s.view.hasEffects then [.celebrate i.event.index] else []

theorem filter_insertionEffects (s : Session) (mayScroll : Bool) (is : List Insertion) :
    (s.insertionEffects .forward mayScroll is).filter ViewEffect.isOfRow = s.rowEffects is := by
  induction is generalizing mayScroll with
  | nil => rfl
  | cons i is ih =>
    have hrest : s.rowEffects (i :: is) =
        (s.insertedEffect i ::
          if !i.placement.isNewest && s.view.hasEffects then [.celebrate i.event.index] else []) ++
          s.rowEffects is := List.flatMap_cons
    have hrow : (s.insertedEffect i).isOfRow = true := rfl
    have hcelebrate : (ViewEffect.celebrate i.event.index).isOfRow = true := rfl
    have hscroll : ViewEffect.scrollToNewest.isOfRow = false := rfl
    cases hn : i.placement.isNewest with
    | true => cases mayScroll <;> simp [insertionEffects, hn, hrest, hrow, hscroll, ih]
    | false =>
      cases hv : s.view.hasEffects <;> simp [insertionEffects, hn, hv, hrest, hrow, hcelebrate, ih]

theorem filter_emptyEffects (s : Session) (r : PageRequest) (st : Store) :
    (s.emptyEffects r st).filter ViewEffect.isOfRow = [] :=
  List.filter_eq_nil_iff.mpr fun e he => by
    rcases mem_emptyEffects he with rfl | rfl <;> simp [ViewEffect.isOfRow]

theorem filter_loadMoreEffects (s : Session) (next : Option UInt64) :
    (s.loadMoreEffects next).filter ViewEffect.isOfRow = [] :=
  List.filter_eq_nil_iff.mpr fun e he => by
    rcases mem_loadMoreEffects he with ⟨cursor, rfl⟩ | rfl <;> simp [ViewEffect.isOfRow]

theorem rowEffects_planForward (s : Session) (page : List Event) :
    (s.applyPage s.planForward page).1.effects.filter ViewEffect.isOfRow =
      s.rowEffects (s.store.merge (s.accepted page)).1 := by
  simp only [applyPage, List.filter_append, filter_emptyEffects, filter_loadMoreEffects, List.append_nil]
  exact filter_insertionEffects s s.atNewest _

theorem accepted_append (h : (page ++ page').Pairwise (fun a b => a.index ≤ b.index)) :
    s.accepted (page ++ page') = s.accepted page ++ s.accepted page' := by
  obtain ⟨hpage, hpage', -⟩ := List.pairwise_append.mp h
  rw [accepted_of_ascending h, accepted_of_ascending hpage, accepted_of_ascending hpage', List.filter_append]

theorem length_accepted_le (s : Session) (page : List Event) : (s.accepted page).length ≤ page.length := by
  rw [accepted, List.length_mergeSort]
  exact List.length_filter_le _ _

/-- A page may be cut in two. -/
theorem addsUp_append (hindicates : s.IndicatesEmpty) (hawaits : s.AwaitsInEmpty)
    (h : (page ++ page').Pairwise (fun a b => a.index ≤ b.index)) :
    let first := s.applyPage s.planForward page
    let second := first.2.applyPage first.2.planForward page'
    AddsUp ([first.1, second.1], second.2) (s.applyPage s.planForward (page ++ page')) := by
  intro first second
  let is := (s.store.merge (s.accepted page)).1
  let js := (first.2.store.merge (first.2.accepted page')).1
  have haccepted : s.accepted (page ++ page') = s.accepted page ++ first.2.accepted page' := accepted_append h
  have hmerge : s.store.merge (s.accepted (page ++ page')) = (is ++ js, second.2.store) := by
    rw [haccepted, Store.merge_append]
    rfl
  have htriggers := triggers_planForward hindicates hawaits (page ++ page')
  have htriggers₁ := triggers_planForward hindicates hawaits page
  have htriggers₂ := triggers_planForward (s := first.2) indicatesEmpty_applyPage hawaits.applyPage page'
  have hrows := rowEffects_planForward s (page ++ page')
  have hrows₁ := rowEffects_planForward s page
  have hrows₂ := rowEffects_planForward first.2 page'
  rw [hmerge] at htriggers hrows
  refine ⟨?_, ?_, ?_, ?_, ?_⟩
  · have hempty (l l' : List Insertion) : (l ++ l').isEmpty = (l.isEmpty && l'.isEmpty) := by
      cases l <;> rfl
    have hone : { (s.applyPage s.planForward (page ++ page')).2 with loadMoreCursor := none } =
        { s with
          store := second.2.store
          showingEmpty := second.2.store.isEmpty
          awaitingFirst := s.awaitingFirst && (is ++ js).isEmpty
          loadMoreCursor := none } := by
      simp only [applyPage, hmerge]
    rw [hone, hempty, ← Bool.and_assoc]
    rfl
  · simp only [List.flatMap_cons, List.flatMap_nil, List.append_nil]
    rw [htriggers, List.filter_append, List.flatMap_append]
    exact congrArg₂ (· ++ ·) htriggers₁ htriggers₂
  · simp only [List.flatMap_cons, List.flatMap_nil, List.append_nil]
    rw [hrows, List.filter_append, rowEffects, List.flatMap_append]
    exact congrArg₂ (· ++ ·) hrows₁ hrows₂
  · change is.length + (js.length + 0) = (s.store.merge (s.accepted (page ++ page'))).1.length
    rw [hmerge, List.length_append, Nat.add_zero]
  · have hle := s.length_accepted_le page
    have hle' := first.2.length_accepted_le page'
    change page.length - (s.accepted page).length + (page'.length - (first.2.accepted page').length + 0) =
      (page ++ page').length - (s.accepted (page ++ page')).length
    rw [haccepted, List.length_append, List.length_append]
    omega

theorem AddsUp.cons {a : Applied} {several : List Applied × Session} {rest one : Applied × Session}
    (hrest : AddsUp several rest) (h : AddsUp ([a, rest.1], rest.2) one) :
    AddsUp (a :: several.1, several.2) one := by
  refine ⟨hrest.session.trans h.session, ?_, ?_, ?_, ?_⟩
  · rw [← h.triggers]
    simp [hrest.triggers]
  · rw [← h.rows]
    simp [hrest.rows]
  · rw [← h.inserted]
    simp [hrest.inserted]
  · rw [← h.dropped]
    simp [hrest.dropped]

/-- A page may be cut in as many as one likes. -/
theorem addsUp_follow (pages : List (List Event)) (hindicates : s.IndicatesEmpty) (hawaits : s.AwaitsInEmpty)
    (hpages : pages ≠ []) (h : pages.flatten.Pairwise (fun a b => a.index ≤ b.index)) :
    AddsUp (s.follow pages) (s.applyPage s.planForward pages.flatten) := by
  induction pages generalizing s with
  | nil => exact absurd rfl hpages
  | cons page pages ih =>
    rw [List.flatten_cons] at h ⊢
    by_cases hlast : pages = []
    · subst hlast
      exact ⟨by simp [follow], by simp [follow], by simp [follow], by simp [follow], by simp [follow]⟩
    · have hcut := addsUp_append hindicates hawaits h
      exact (ih indicatesEmpty_applyPage hawaits.applyPage hlast (List.pairwise_append.mp h).2.1).cons hcut

/-- Events pushed one by one do what one forward page of them does. -/
theorem pushes_add_up (s : Session) (events : List Event) (hindicates : s.IndicatesEmpty)
    (hawaits : s.AwaitsInEmpty) (hne : events ≠ []) (h : events.Pairwise (fun a b => a.index ≤ b.index)) :
    AddsUp (s.pushEach events) (s.applyPage s.planForward events) := by
  have hflatten : (events.map ([·])).flatten = events := by
    rw [← List.flatMap_def, List.flatMap_singleton']
  have hadds := addsUp_follow (events.map ([·])) hindicates hawaits (by simpa using hne) (by rwa [hflatten])
  rwa [hflatten] at hadds

/-- A dropped event, a copy and two boosts reach a session that awaits its first events. -/
theorem pushes_to_awaiting_add_up :
    let s : Session := { showingEmpty := true, awaitingFirst := true }
    let e (i : UInt64) (a : Action) : Event := { index := i, action := a }
    let events := [e 1 .stream, e 2 .boost, e 2 .auto, e 4 .boost]
    (s.IndicatesEmpty ∧ s.AwaitsInEmpty ∧ events ≠ [] ∧ events.Pairwise (fun a b => a.index ≤ b.index)) ∧
    AddsUp (s.pushEach events) (s.applyPage s.planForward events) ∧
    ((s.pushEach events).1.flatMap Applied.triggers).map Trigger.eventIndex = [2, 4] := by
  intro s e events
  have hindicates : s.IndicatesEmpty := fun _ => rfl
  have hawaits : s.AwaitsInEmpty := fun _ => rfl
  have hascending : events.Pairwise (fun a b => a.index ≤ b.index) := by decide
  have hne : events ≠ [] := List.cons_ne_nil _ _
  have hplayed : ((s.pushEach events).1.flatMap Applied.triggers).map Trigger.eventIndex = [2, 4] := by decide +kernel
  exact ⟨⟨hindicates, hawaits, hne, hascending⟩, pushes_add_up s events hindicates hawaits hne hascending, hplayed⟩

end Session

/-- Events that are pushed to a reconciler for its view are pushed to its session, and what they play goes to the
queue. -/
theorem Reconciler.foldl_push {r : Reconciler} (ha : r.session.authorized = true) (events : List Event) :
    events.foldl (fun r e => (r.start (.push r.session.view [e])).1) r =
      { r with
        session := (r.session.pushEach events).2
        queue := r.queue.submitAll ((r.session.pushEach events).1.flatMap Applied.triggers) } := by
  induction events generalizing r with
  | nil => rfl
  | cons e events ih =>
    let pushed : Reconciler :=
      { r with
        session := (r.session.applyPage r.session.planForward [e]).2
        queue := r.queue.submitAll (r.session.applyPage r.session.planForward [e]).1.triggers }
    have hstart : (r.start (.push r.session.view [e])).1 = pushed := by
      simp [start, apply, ha, pushed]
    have hlater := ih (r := pushed) ha
    rw [List.foldl_cons, hstart, hlater]
    simp [pushed, Session.pushEach, Session.follow, Queue.submitAll]

end BoostFeed
