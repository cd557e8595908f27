import BoostFeed.Proofs.Session.PageOrder

/-! What plays when the first events arrive. A session that shows the empty indicator, or awaits its first events, plays
at least one new event of a page, whatever the page was asked for; it adds to what the request plays only where that is
nothing, and then the newest event alone. Any new event ends the waiting. -/

namespace BoostFeed.Session

open Feed Playback

/-- The session as it were without the empty indicator and without first events to await. -/
def unflagged (s : Session) : Session := { s with showingEmpty := false, awaitingFirst := false }

variable {s : Session} {r : PageRequest} {page : List Event} {e : Event}

theorem soundFiles_ne_nil (hsound : s.settings.defaultSound ≠ none) (amount : UInt64) : s.soundFiles amount ≠ [] := by
  unfold soundFiles
  split
  next =>
    obtain ⟨file, hfile⟩ := Option.ne_none_iff_exists'.mp hsound
    simp [hfile]
  next files hfiles => exact hfiles

theorem triggersFor_ne_nil (hplayback : s.settings.playback = true) (heffects : s.view.hasEffects = true)
    (hsound : s.settings.defaultSound ≠ none) (e : Event) : s.triggersFor e ≠ [] := by
  unfold triggersFor
  rw [hplayback, heffects]
  cases hcues : (e.effects.map Effect.cues).filter (!·.isEmpty) with
  | nil =>
    cases hfiles : s.soundFiles e.amount with
    | nil => exact absurd hfiles (soundFiles_ne_nil hsound _)
    | cons file more => simp
  | cons cues more => simp

/-- What the request alone plays. -/
theorem triggers_unflagged (s : Session) (r : PageRequest) (page : List Event) :
    (s.unflagged.applyPage r page).1.triggers =
      if r.direction = .forward ∧ r.play then (s.newestEvents page).flatMap s.triggersFor else [] :=
  triggers_of_unflagged rfl rfl

theorem triggers_unflagged_eq_nil_iff (hplays : ∀ e, s.triggersFor e ≠ []) :
    (s.unflagged.applyPage r page).1.triggers = [] ↔
      r.direction = .backfill ∨ r.play = false ∨ s.newestEvents page = [] := by
  rw [triggers_unflagged]
  cases hd : r.direction with
  | backfill => simp
  | forward =>
    cases hp : r.play with
    | false => simp
    | true => cases s.newestEvents page <;> simp [hplays]

/-- Where the first events are new to a session, the newest of them plays if the request plays nothing. -/
theorem triggers_flagged (hflag : s.showingEmpty = true ∨ s.awaitingFirst = true) (r : PageRequest)
    (page : List Event) :
    (s.applyPage r page).1.triggers =
      match (s.unflagged.applyPage r page).1.triggers with
      | [] => ((s.newEvents page).getLast?.map s.triggersFor).getD []
      | triggers => triggers := by
  have hforced : (s.showingEmpty || s.awaitingFirst) = true := by simpa using hflag
  rw [triggers_unflagged, ← requestedTriggers_insertions, ← events_insertions, List.getLast?_map, Option.map_map]
  change s.insertionTriggers r (s.store.merge (s.accepted page)).1 = _
  rw [insertionTriggers, if_pos hforced]
  rfl

theorem getLast?_newEvents (he : e ∈ s.newEvents page) (hhighest : ∀ x ∈ s.newEvents page, x.index ≤ e.index) :
    (s.newEvents page).getLast? = some e := by
  obtain ⟨pre, post, hsplit⟩ := List.append_of_mem he
  have hascending := s.ascending_newEvents page
  rw [hsplit] at hascending hhighest ⊢
  cases post with
  | nil => exact List.getLast?_concat
  | cons x post =>
    have hlt := List.rel_of_pairwise_cons (List.pairwise_append.mp hascending).2.1 (List.mem_cons_self (l := post))
    have hle := hhighest x (by simp)
    exact absurd hlt (UInt64.not_lt.mpr hle)

theorem inserted_ne_zero_iff : (s.applyPage r page).1.inserted ≠ 0 ↔ s.newEvents page ≠ [] := by
  rw [inserted_applyPage, Ne, List.length_eq_zero_iff]

/-- Any new event ends the waiting. -/
theorem flags_applyPage (hnew : s.newEvents page ≠ []) :
    (s.applyPage r page).2.showingEmpty = false ∧ (s.applyPage r page).2.awaitingFirst = false := by
  constructor
  · obtain ⟨e, he⟩ := List.exists_mem_of_ne_nil _ hnew
    rw [newEvents_eq_gained s r] at he
    have hstored := List.ne_nil_of_mem (List.mem_filter.mp he).1
    exact Bool.eq_false_iff.mpr fun h => hstored (List.isEmpty_iff.mp h)
  · have hinsertions : (s.store.merge (s.accepted page)).1 ≠ [] := by
      rwa [← events_insertions, Ne, List.map_eq_nil_iff] at hnew
    change (s.awaitingFirst && (s.store.merge (s.accepted page)).1.isEmpty) = false
    rw [List.isEmpty_eq_false_iff.mpr hinsertions, Bool.and_false]

/-- What a page gives, and leaves behind, where its new events are the first. -/
structure PlaysFirst (s : Session) (r : PageRequest) (page : List Event) (a : Applied) (after : Session) : Prop where
  /-- The new events are what the store gains. -/
  gained : s.newEvents page = after.store.events.filter fun e => !s.store.contains e.index
  inserted : a.inserted = (s.newEvents page).length
  /-- The request alone plays nothing if it goes back, may not play or brings no event above all that is stored. -/
  alone : (s.unflagged.applyPage r page).1.triggers = [] ↔
    r.direction = .backfill ∨ r.play = false ∨ s.newestEvents page = []
  plays : a.inserted ≠ 0 → a.triggers ≠ []
  newest : (s.unflagged.applyPage r page).1.triggers = [] →
    ∀ e ∈ s.newEvents page, (∀ x ∈ s.newEvents page, x.index ≤ e.index) → a.triggers = s.triggersFor e
  /-- What the request plays is not played once more. -/
  requested : (s.unflagged.applyPage r page).1.triggers ≠ [] →
    a.triggers = (s.unflagged.applyPage r page).1.triggers
  silent : a.inserted = 0 → a.triggers = []
  cleared : a.inserted ≠ 0 → after.showingEmpty = false ∧ after.awaitingFirst = false

/-- With playback on, in a view with effects and with a default sound, the first events after an empty state always
play: what the request plays of them or, where that is nothing, the newest of them. -/
theorem first_events_play (s : Session) (r : PageRequest) (page : List Event)
    (hflag : s.showingEmpty = true ∨ s.awaitingFirst = true) (hplayback : s.settings.playback = true)
    (heffects : s.view.hasEffects = true) (hsound : s.settings.defaultSound ≠ none) :
    PlaysFirst s r page (s.applyPage r page).1 (s.applyPage r page).2 := by
  have hplays := triggersFor_ne_nil hplayback heffects hsound
  have htriggers := triggers_flagged hflag r page
  refine
    { gained := newEvents_eq_gained s r page
      inserted := s.inserted_applyPage r page
      alone := triggers_unflagged_eq_nil_iff hplays
      plays := fun hinserted => ?plays
      newest := fun halone e he hhighest => ?newest
      requested := fun halone => ?requested
      silent := fun hinserted => ?silent
      cleared := fun hinserted => flags_applyPage (inserted_ne_zero_iff.mp hinserted) }
  case plays =>
    rw [htriggers]
    split
    next =>
      have hlast := List.getLast?_eq_some_getLast (inserted_ne_zero_iff.mp hinserted)
      rw [hlast]
      exact hplays _
    next triggers halone => exact halone
  case newest =>
    rw [htriggers, halone, getLast?_newEvents he hhighest]
    rfl
  case requested =>
    rw [htriggers]
    split
    next hnone => exact absurd hnone halone
    next => rfl
  case silent =>
    have hnone : s.newEvents page = [] := by simpa using mt inserted_ne_zero_iff.mpr (not_not_intro hinserted)
    have halone : (s.unflagged.applyPage r page).1.triggers = [] :=
      (triggers_unflagged_eq_nil_iff hplays).mpr (.inr (.inr (by rw [newestEvents, hnone, List.filter_nil])))
    rw [htriggers, halone, hnone]
    rfl

/-- History that comes to a session that has shown the empty indicator plays its newest event and nothing else. -/
theorem first_history_plays :
    let e (i : UInt64) : Event := { index := i, action := .boost }
    let s := (({} : Session).applyPage ({} : Session).planForward []).2
    let page := [e 3, e 4]
    ((s.showingEmpty = true ∨ s.awaitingFirst = true) ∧ s.settings.playback = true ∧ s.view.hasEffects = true ∧
      s.settings.defaultSound ≠ none) ∧
    PlaysFirst s s.planBackfill page (s.applyPage s.planBackfill page).1 (s.applyPage s.planBackfill page).2 ∧
    s.newEvents page = [e 3, e 4] ∧ (s.applyPage s.planBackfill page).1.triggers = s.triggersFor (e 4) := by
  intro e s page
  have hflag : s.showingEmpty = true ∨ s.awaitingFirst = true := by cbv
  have hsound : s.settings.defaultSound ≠ none := by decide
  have hplays := first_events_play s s.planBackfill page hflag rfl rfl hsound
  have hnew : s.newEvents page = [e 3, e 4] := by cbv
  have hhighest : ∀ x ∈ s.newEvents page, x.index ≤ (e 4).index := by
    rw [hnew]
    decide
  have halone := hplays.alone.mpr (.inl rfl)
  exact ⟨⟨hflag, rfl, rfl, hsound⟩, hplays, hnew, hplays.newest halone (e 4) (by simp [hnew]) hhighest⟩

end BoostFeed.Session
