import BoostFeed.Proofs.Feed.Insertions
import BoostFeed.Proofs.Session.Rendering

/-! What plays, and when. A call plays only events that it inserts, each as a whole and in the order of the
indices. What is stored stays stored, so no later call inserts or plays it again. -/

namespace BoostFeed

open Feed Playback

namespace Session

variable {s : Session} {r : PageRequest} {page : List Event} {e : Event} {t : Trigger}
  {is : List Insertion}

theorem eventIndex_of_mem_triggersFor (h : t ∈ s.triggersFor e) : t.eventIndex = e.index := by
  unfold triggersFor at h
  split at h
  · cases h
  · split at h
    · split at h
      · cases h
      · rw [List.mem_singleton.mp h]
    · obtain ⟨cues, -, rfl⟩ := List.mem_map.mp h
      rfl

theorem cues_ne_nil_of_mem_triggersFor (h : t ∈ s.triggersFor e) : t.cues ≠ [] := by
  unfold triggersFor at h
  split at h
  · cases h
  · split at h
    · split at h
      · cases h
      · next hfiles =>
        rw [List.mem_singleton.mp h]
        simpa using hfiles
    · obtain ⟨cues, hcues, rfl⟩ := List.mem_map.mp h
      have hkept := (List.mem_filter.mp hcues).2
      simpa using hkept

/-- What the insertions of a page play is what some of them play. -/
theorem insertionTriggers_eq_flatMap (s : Session) (r : PageRequest) (is : List Insertion) :
    ∃ js : List Insertion, js.Sublist is ∧
      s.insertionTriggers r is = js.flatMap fun i => s.triggersFor i.event := by
  unfold insertionTriggers
  split
  · split
    · cases hlast : is.getLast? with
      | none => exact ⟨[], List.nil_sublist _, by simp⟩
      | some i => exact ⟨[i], List.singleton_sublist.mpr (List.mem_of_getLast? hlast), by simp⟩
    · exact ⟨[], List.nil_sublist _, rfl⟩
  · unfold requestedTriggers
    split
    · exact ⟨_, List.filter_sublist, rfl⟩
    · exact ⟨[], List.nil_sublist _, rfl⟩

theorem flatMap_triggersFor_sorted {js : List Insertion}
    (hjs : js.Pairwise (fun a b => a.event.index < b.event.index)) :
    (js.flatMap fun i => s.triggersFor i.event).Pairwise (fun a b => a.eventIndex ≤ b.eventIndex) := by
  rw [List.pairwise_flatMap]
  constructor
  · intro i _
    apply List.pairwise_of_forall_mem_list
    intro t ht u hu
    rw [eventIndex_of_mem_triggersFor ht, eventIndex_of_mem_triggersFor hu]
    exact UInt64.le_refl _
  · apply hjs.imp
    intro i j hij t ht u hu
    rw [eventIndex_of_mem_triggersFor ht, eventIndex_of_mem_triggersFor hu]
    exact UInt64.le_of_lt hij

theorem filter_flatMap_triggersFor {js : List Insertion}
    (hjs : js.Pairwise (fun a b => a.event.index < b.event.index)) {i : Insertion} (hi : i ∈ js) :
    (js.flatMap fun i => s.triggersFor i.event).filter (·.eventIndex = i.event.index) =
      s.triggersFor i.event := by
  have hown : (s.triggersFor i.event).filter (·.eventIndex = i.event.index) = s.triggersFor i.event :=
    List.filter_eq_self.mpr fun t ht => by simpa using eventIndex_of_mem_triggersFor ht
  have hothers (l : List Insertion) (hl : ∀ j ∈ l, j.event.index ≠ i.event.index) :
      (l.flatMap fun i => s.triggersFor i.event).filter (·.eventIndex = i.event.index) = [] := by
    rw [List.filter_eq_nil_iff]
    intro t ht
    obtain ⟨j, hj, ht⟩ := List.mem_flatMap.mp ht
    simpa [eventIndex_of_mem_triggersFor ht] using hl j hj
  obtain ⟨pre, post, rfl⟩ := List.append_of_mem hi
  obtain ⟨-, hpost, hpre⟩ := List.pairwise_append.mp hjs
  have hbelow : ∀ j ∈ pre, j.event.index ≠ i.event.index := fun j hj =>
    UInt64.ne_of_lt (hpre j hj i List.mem_cons_self)
  have habove : ∀ j ∈ post, j.event.index ≠ i.event.index := fun j hj =>
    (UInt64.ne_of_lt ((List.pairwise_cons.mp hpost).1 j hj)).symm
  rw [List.flatMap_append, List.flatMap_cons, List.filter_append, List.filter_append, hothers pre hbelow, hown,
    hothers post habove, List.nil_append, List.append_nil]

theorem triggersFor_call (s : Session) (c : SessionCall) : (s.call c).2.triggersFor = s.triggersFor := by
  cases c with
  | planColdStart raw =>
    simp only [call, planColdStart_session]
    rfl
  | plan direction => rfl
  | applyPage r page => rfl
  | markReplied i => rfl

theorem triggersFor_calls (s : Session) (cs : List SessionCall) :
    (s.calls cs).2.triggersFor = s.triggersFor :=
  calls_invariant (P := (·.triggersFor = s.triggersFor)) (fun t c h => (triggersFor_call t c).trans h) rfl cs

/-- An event is stored, as it came or marked as replied to. -/
def Keeps (s : Session) (e : Event) : Prop := e ∈ s.store.events ∨ { e with replySent := true } ∈ s.store.events

theorem Keeps.index_mem (h : s.Keeps e) : e.index ∈ s.store.indices := by
  rcases h with h | h
  · exact Store.mem_indices.mpr ⟨e, h, rfl⟩
  · exact Store.mem_indices.mpr ⟨_, h, rfl⟩

theorem Keeps.call (h : s.Keeps e) (c : SessionCall) : (s.call c).2.Keeps e := by
  cases c with
  | planColdStart raw =>
    simp only [Session.call, planColdStart_session]
    exact h
  | plan direction => exact h
  | applyPage r page => exact h.imp mem_applyPage_of_mem mem_applyPage_of_mem
  | markReplied i =>
    -- the mark is put on the event itself or stays on it
    have hmark {x : Event} (hx : x ∈ s.store.events) :
        (if x.index = i then { x with replySent := true } else x) ∈ (s.markReplied i).2.store.events :=
      List.mem_map_of_mem hx
    rcases h with h | h
    · have hm := hmark h
      split at hm
      · exact .inr hm
      · exact .inl hm
    · have hm := hmark h
      simp only [ite_self] at hm
      exact .inr hm

end Session

/-- A call and the session that it meets. -/
structure Encounter where
  session : Session
  call : SessionCall

namespace Session

/-- The calls of a run, each with the session that it meets. -/
def encounters (s : Session) : List SessionCall → List Encounter
  | [] => []
  | c :: cs => ⟨s, c⟩ :: (s.call c).2.encounters cs

end Session

namespace Encounter

variable {n : Encounter} {t : Trigger} {e : Event}

/-- What the call plays. -/
def triggers (n : Encounter) : List Trigger :=
  match n.call with
  | .applyPage r page => (n.session.applyPage r page).1.triggers
  | .planColdStart _ | .plan _ | .markReplied _ => []

def after (n : Encounter) : Session := (n.session.call n.call).2

/-- The call applies a page and puts the event of that page into the store. -/
def Inserts (n : Encounter) (e : Event) : Prop :=
  ∃ r page, n.call = .applyPage r page ∧ e ∈ page ∧ e.index ∉ n.session.store.indices ∧ e ∈ n.after.store.events

/-- A call plays what some of its insertions play, and these are in ascending order. -/
theorem triggers_eq_flatMap (n : Encounter) :
    ∃ js : List Insertion, js.Pairwise (fun a b => a.event.index < b.event.index) ∧
      (∀ i ∈ js, n.Inserts i.event) ∧ n.triggers = js.flatMap fun i => n.session.triggersFor i.event := by
  obtain ⟨s, c⟩ := n
  cases c with
  | applyPage r page =>
    obtain ⟨js, hsub, htriggers⟩ :=
      s.insertionTriggers_eq_flatMap r (s.store.merge (s.accepted page)).1
    refine ⟨js, (Store.insertions_increasing (s.ascending_accepted page)).sublist hsub, fun i hi => ?_, htriggers⟩
    have hi := hsub.subset hi
    have hpage := List.mem_of_find?_eq_some (Store.find?_of_mem_insertions hi)
    exact ⟨r, page, rfl, (Session.mem_accepted.mp hpage).1, Store.index_notMem_of_mem_insertions hi,
      Store.event_mem_merge hi⟩
  | planColdStart raw => exact ⟨[], .nil, fun _ h => absurd h List.not_mem_nil, rfl⟩
  | plan direction => exact ⟨[], .nil, fun _ h => absurd h List.not_mem_nil, rfl⟩
  | markReplied i => exact ⟨[], .nil, fun _ h => absurd h List.not_mem_nil, rfl⟩

theorem triggers_sorted (n : Encounter) : n.triggers.Pairwise (fun a b => a.eventIndex ≤ b.eventIndex) := by
  obtain ⟨js, hjs, -, htriggers⟩ := n.triggers_eq_flatMap
  rw [htriggers]
  exact Session.flatMap_triggersFor_sorted hjs

/-- What a call plays for an index is all that the inserted event plays. -/
theorem exists_inserted (h : t ∈ n.triggers) :
    ∃ e, e.index = t.eventIndex ∧ n.Inserts e ∧ t ∈ n.session.triggersFor e ∧
      n.triggers.filter (·.eventIndex = t.eventIndex) = n.session.triggersFor e := by
  obtain ⟨js, hjs, hinserts, htriggers⟩ := n.triggers_eq_flatMap
  rw [htriggers] at h ⊢
  obtain ⟨i, hi, ht⟩ := List.mem_flatMap.mp h
  have hindex := Session.eventIndex_of_mem_triggersFor ht
  refine ⟨i.event, hindex.symm, hinserts i hi, ht, ?_⟩
  rw [hindex]
  exact Session.filter_flatMap_triggersFor hjs hi

end Encounter

namespace Session

variable {s : Session} {cs : List SessionCall} {n : Encounter} {e : Event}

theorem encounter_invariant {P : Session → Prop} (hcall : ∀ s c, P s → P (s.call c).2) (h : P s)
    (hn : n ∈ s.encounters cs) : P n.session := by
  induction cs generalizing s with
  | nil => cases hn
  | cons c cs ih =>
    rcases List.mem_cons.mp hn with rfl | hn
    · exact h
    · exact ih (hcall s c h) hn

theorem end_invariant {P : Session → Prop} (hcall : ∀ s c, P s → P (s.call c).2)
    (hn : n ∈ s.encounters cs) (h : P n.after) : P (s.calls cs).2 := by
  induction cs generalizing s with
  | nil => cases hn
  | cons c cs ih =>
    rcases List.mem_cons.mp hn with rfl | hn
    · exact calls_invariant hcall h cs
    · exact ih hn

theorem triggersFor_encounter (hn : n ∈ s.encounters cs) : n.session.triggersFor = s.triggersFor :=
  encounter_invariant (P := (·.triggersFor = s.triggersFor)) (fun t c h => (triggersFor_call t c).trans h) rfl hn

/-- What a call plays it has inserted, and a later call meets it in the store and cannot insert it again. -/
theorem encounters_play_apart (s : Session) (cs : List SessionCall) :
    (s.encounters cs).Pairwise fun m n => ∀ t ∈ m.triggers, ∀ u ∈ n.triggers, t.eventIndex ≠ u.eventIndex := by
  induction cs generalizing s with
  | nil => exact .nil
  | cons c cs ih =>
    refine List.pairwise_cons.mpr ⟨fun n hn t ht u hu hindex => ?_, ih (s.call c).2⟩
    obtain ⟨e, he, ⟨-, -, -, -, -, hstored⟩, -⟩ := Encounter.exists_inserted ht
    obtain ⟨x, hx, ⟨-, -, -, -, hnew, -⟩, -⟩ := Encounter.exists_inserted hu
    have hkeeps : n.session.Keeps e := encounter_invariant (P := (·.Keeps e)) (fun _ c h => h.call c) (.inl hstored) hn
    rw [hx, ← hindex, ← he] at hnew
    exact hnew hkeeps.index_mem

/-- In a run without a switch of the view, no two calls play the same index. What a call plays comes in ascending
order of the indices; each trigger has cues; and the triggers of an index are, in their order, all those of the
event that the call has inserted under it, which stays stored and would play the same to the end. -/
theorem events_play_once (s : Session) (cs : List SessionCall) :
    let final := (s.calls cs).2
    ((s.encounters cs).Pairwise fun m n => ∀ t ∈ m.triggers, ∀ u ∈ n.triggers, t.eventIndex ≠ u.eventIndex) ∧
    ∀ n ∈ s.encounters cs,
      (n.triggers.Pairwise fun t u => t.eventIndex ≤ u.eventIndex) ∧
      ∀ t ∈ n.triggers, t.cues ≠ [] ∧
        ∃ e, e.index = t.eventIndex ∧ n.Inserts e ∧
          n.triggers.filter (·.eventIndex = t.eventIndex) = n.session.triggersFor e ∧
          ∃ x ∈ final.store.events, (x = e ∨ x = { e with replySent := true }) ∧
            n.triggers.filter (·.eventIndex = t.eventIndex) = final.triggersFor x := by
  intro final
  refine ⟨s.encounters_play_apart cs, fun n hn => ⟨n.triggers_sorted, fun t ht => ?_⟩⟩
  obtain ⟨e, he, hinserts, hte, hfilter⟩ := Encounter.exists_inserted ht
  refine ⟨cues_ne_nil_of_mem_triggersFor hte, e, he, hinserts, hfilter, ?_⟩
  have hsame : final.triggersFor = n.session.triggersFor :=
    (triggersFor_calls s cs).trans (triggersFor_encounter hn).symm
  obtain ⟨-, -, -, -, -, hstored⟩ := hinserts
  rw [hfilter, hsame]
  have hkeeps : final.Keeps e := end_invariant (P := (·.Keeps e)) (fun _ c h => h.call c) hn (.inl hstored)
  rcases hkeeps with hx | hx
  · exact ⟨e, hx, .inl rfl, rfl⟩
  · exact ⟨_, hx, .inr rfl, rfl⟩

/-- Of two pages that overlap, the second plays only what the first has not brought. -/
theorem overlapping_pages_play_once :
    let s := fresh .boosts {} [] {}
    let e (i : UInt64) : Event := { index := i, action := .boost }
    let cs : List SessionCall :=
      [.applyPage s.planForward [e 2, e 1], .markReplied 2, .applyPage s.planForward [e 2, e 3]]
    (s.encounters cs).map (fun n => n.triggers.map Trigger.eventIndex) = [[1, 2], [], [3]] ∧
    ((s.encounters cs).Pairwise fun m n =>
      ∀ t ∈ m.triggers, ∀ u ∈ n.triggers, t.eventIndex ≠ u.eventIndex) := by
  intro s e cs
  -- sorting does not evaluate in the kernel, so the pages are sorted by lemmas first
  have hfirst : s.accepted [e 2, e 1] = [e 1, e 2] := by
    have hadmitted : [e 2, e 1].filter s.admits = [e 2, e 1] := by decide +kernel
    rw [accepted, hadmitted]
    simp [List.mergeSort, e]
  have hlast (t : Session) : t.accepted [e 2, e 3] = [e 2, e 3].filter t.admits := accepted_of_ascending (by decide)
  refine ⟨?_, (events_play_once s cs).1⟩
  simp only [cs, encounters, call, Encounter.triggers, List.map_cons, List.map_nil, applyPage, hfirst, hlast]
  decide +kernel

end Session

end BoostFeed
