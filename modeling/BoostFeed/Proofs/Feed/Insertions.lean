import BoostFeed.Proofs.Feed.Merge

/-! What a merge inserts. Of every index that was not stored before, it is the first copy in the batch, and the
insertions stand in the order of these copies. -/

namespace BoostFeed.Feed.Store

variable {s t : Store} {e : Event} {i : Insertion} {l : List Event}

theorem contains_eq_false_iff {j : UInt64} : s.contains j = false ↔ j ∉ s.indices := by
  rw [← contains_iff, Bool.not_eq_true]

theorem mem_indices_insert? (h : s.insert? e = some (i, t)) {j : UInt64} :
    j ∈ t.indices ↔ j ∈ s.indices ∨ j = e.index := by
  simp only [mem_indices, mem_insert? h]
  constructor
  · rintro ⟨x, rfl | hx, rfl⟩
    · exact .inr rfl
    · exact .inl ⟨x, hx, rfl⟩
  · rintro (⟨x, hx, rfl⟩ | rfl)
    · exact ⟨x, .inr hx, rfl⟩
    · exact ⟨e, .inl rfl, rfl⟩

theorem contains_insert? (h : s.insert? e = some (i, t)) (j : UInt64) :
    t.contains j = (s.contains j || j == e.index) := by
  rw [Bool.eq_iff_iff, Bool.or_eq_true, contains_iff, contains_iff, beq_iff_eq, mem_indices_insert? h]

theorem index_notMem_of_insert? (h : s.insert? e = some (i, t)) : e.index ∉ s.indices := by
  intro hm
  rw [insert?_eq_none_iff.mpr hm] at h
  cases h

theorem merge_of_known (h : ∀ e ∈ l, e.index ∈ s.indices) : s.merge l = ([], s) := by
  induction l with
  | nil => rfl
  | cons e l ih =>
    rw [merge_cons_of_mem (h e List.mem_cons_self)]
    exact ih fun x hx => h x (List.mem_cons_of_mem e hx)

/-- The same batch again brings nothing new. -/
theorem merge_merge (s : Store) (l : List Event) : (s.merge l).2.merge l = ([], (s.merge l).2) :=
  merge_of_known fun _ => index_mem_merge

theorem merge_append (s : Store) (l l' : List Event) :
    s.merge (l ++ l') = ((s.merge l).1 ++ ((s.merge l).2.merge l').1, ((s.merge l).2.merge l').2) := by
  induction s, l using merge_induction with
  | nil s => rfl
  | known s e l hm ih => rw [List.cons_append, merge_cons_of_mem hm, merge_cons_of_mem hm, ih]
  | inserted s e l i t he ih =>
    rw [List.cons_append, merge_cons_of_insert? he, merge_cons_of_insert? he, ih, List.cons_append]

theorem index_notMem_of_mem_insertions (h : i ∈ (s.merge l).1) : i.event.index ∉ s.indices := by
  induction s, l using merge_induction with
  | nil s => cases h
  | known s e l hm ih =>
    rw [merge_cons_of_mem hm] at h
    exact ih h
  | inserted s e l j t he ih =>
    rw [merge_cons_of_insert? he] at h
    rcases List.mem_cons.mp h with rfl | h
    · rw [insert?_event he]
      exact index_notMem_of_insert? he
    · exact fun hm => ih h ((mem_indices_insert? he).mpr (.inl hm))

theorem event_mem_merge (h : i ∈ (s.merge l).1) : i.event ∈ (s.merge l).2.events := by
  induction s, l using merge_induction with
  | nil s => cases h
  | known s e l hm ih =>
    rw [merge_cons_of_mem hm] at h ⊢
    exact ih h
  | inserted s e l j t he ih =>
    rw [merge_cons_of_insert? he] at h ⊢
    rcases List.mem_cons.mp h with rfl | h
    · exact mem_merge_of_mem l ((mem_insert? he).mpr (.inl (insert?_event he)))
    · exact ih h

/-- What a merge inserts for an index is the first copy in the batch. -/
theorem find?_of_mem_insertions (h : i ∈ (s.merge l).1) :
    l.find? (·.index == i.event.index) = some i.event := by
  have hskip {u : Store} {e : Event} {l : List Event} (hu : e.index ∈ u.indices) (h : i ∈ (u.merge l).1) :
      (e :: l).find? (·.index == i.event.index) = l.find? (·.index == i.event.index) := by
    have hne : e.index ≠ i.event.index := fun hi => index_notMem_of_mem_insertions h (hi ▸ hu)
    exact List.find?_cons_of_neg (by simpa using hne)
  induction s, l using merge_induction with
  | nil s => cases h
  | known s e l hm ih =>
    rw [merge_cons_of_mem hm] at h
    rw [hskip hm h, ih h]
  | inserted s e l j t he ih =>
    rw [merge_cons_of_insert? he] at h
    rcases List.mem_cons.mp h with rfl | h
    · rw [insert?_event he, List.find?_cons_of_pos (by simp)]
    · rw [hskip ((mem_indices_insert? he).mpr (.inr rfl)) h, ih h]

/-- A merge inserts each index that was absent once, in the order of the first copies. -/
theorem indices_insertions (s : Store) (l : List Event) :
    (s.merge l).1.map (·.event.index) =
      ((l.map Event.index).filter fun j => !s.contains j).eraseDups := by
  induction s, l using merge_induction with
  | nil s => rfl
  | known s e l hm ih =>
    rw [merge_cons_of_mem hm, ih, List.map_cons, List.filter_cons_of_neg (by simp [contains_iff.mpr hm])]
  | inserted s e l j t he ih =>
    have hm := contains_eq_false_iff.mpr (index_notMem_of_insert? he)
    rw [merge_cons_of_insert? he, List.map_cons, insert?_event he, ih, List.map_cons,
      List.filter_cons_of_pos (by simp [hm]), List.eraseDups_cons, List.filter_filter]
    simp only [contains_insert? he, Bool.not_or, Bool.and_comm]

/-- From an ascending batch the insertions come in ascending order. -/
theorem insertions_increasing (hl : l.Pairwise (fun a b => a.index ≤ b.index)) :
    (s.merge l).1.Pairwise (fun a b => a.event.index < b.event.index) := by
  induction s, l using merge_induction with
  | nil s => exact .nil
  | known s e l hm ih =>
    rw [merge_cons_of_mem hm]
    exact ih (List.pairwise_cons.mp hl).2
  | inserted s e l i t he ih =>
    obtain ⟨hle, hl⟩ := List.pairwise_cons.mp hl
    rw [merge_cons_of_insert? he, List.pairwise_cons, insert?_event he]
    refine ⟨fun j hj => ?_, ih hl⟩
    have hstored : e.index ∈ t.indices := (mem_indices_insert? he).mpr (.inr rfl)
    have hne : e.index ≠ j.event.index := fun hi => index_notMem_of_mem_insertions hj (hi ▸ hstored)
    exact UInt64.lt_of_le_of_ne (hle j.event (List.mem_of_find?_eq_some (find?_of_mem_insertions hj))) hne

/-- The insertions of an ascending batch are the events that the store has gained. -/
theorem events_insertions (hl : l.Pairwise (fun a b => a.index ≤ b.index)) :
    (s.merge l).1.map Insertion.event = (s.merge l).2.events.filter fun e => !s.contains e.index := by
  have hinsertions : ((s.merge l).1.map Insertion.event).Pairwise (fun a b => a.index < b.index) :=
    List.pairwise_map.mpr (insertions_increasing hl)
  have hgained : ((s.merge l).2.events.filter fun e => !s.contains e.index).Pairwise
      (fun a b => a.index < b.index) := (s.merge l).2.increasing.filter _
  -- both ascend strictly, so it is enough that they have the same members
  have hsame : Store.mk _ hinsertions = Store.mk _ hgained := by
    apply eq_of_mem_iff
    intro e
    simp only [List.mem_map, List.mem_filter, Bool.not_eq_true', contains_eq_false_iff]
    constructor
    · rintro ⟨i, hi, rfl⟩
      exact ⟨event_mem_merge hi, index_notMem_of_mem_insertions hi⟩
    · rintro ⟨he, hnew⟩
      have hmem : e.index ∈ (s.merge l).1.map (·.event.index) := by
        rw [indices_insertions, List.mem_eraseDups, List.mem_filter]
        rcases mem_or_mem_of_mem_merge he with hs | hs
        · exact absurd (mem_indices.mpr ⟨e, hs, rfl⟩) hnew
        · exact ⟨List.mem_map_of_mem hs, by simpa [contains_eq_false_iff] using hnew⟩
      obtain ⟨i, hi, hie⟩ := List.mem_map.mp hmem
      exact ⟨i, hi, eq_of_index_eq (event_mem_merge hi) he hie⟩
  exact congrArg Store.events hsame

/-- Of the insertions of an ascending batch those are the newest that lie above all that was stored before. -/
theorem isNewest_iff (hl : l.Pairwise (fun a b => a.index ≤ b.index)) (hi : i ∈ (s.merge l).1) :
    i.placement.isNewest = true ↔ ∀ j ∈ s.indices, j < i.event.index := by
  induction s, l using merge_induction with
  | nil s => cases hi
  | known s e l hm ih =>
    rw [merge_cons_of_mem hm] at hi
    exact ih (List.pairwise_cons.mp hl).2 hi
  | inserted s e l k t he ih =>
    have hincreasing := insertions_increasing (s := s) hl
    rw [merge_cons_of_insert? he] at hi hincreasing
    rcases List.mem_cons.mp hi with rfl | hi
    · rw [insert?_isNewest he, insert?_event he, List.isEmpty_iff, fromIndex_eq_nil_iff]
    · -- the event before lies below, as those behind it in the batch do not
      have hlt : e.index < i.event.index := insert?_event he ▸ (List.pairwise_cons.mp hincreasing).1 i hi
      rw [ih (List.pairwise_cons.mp hl).2 hi]
      simp only [mem_indices_insert? he, or_imp, forall_and, forall_eq, and_iff_left hlt]

/-- From an ascending batch that starts no lower than what is stored, every insertion is the newest. -/
theorem isNewest_of_ascending (hl : l.Pairwise (fun a b => a.index ≤ b.index))
    (hs : ∀ x ∈ s.events, ∀ e ∈ l, x.index ≤ e.index) (hi : i ∈ (s.merge l).1) :
    i.placement.isNewest = true := by
  rw [isNewest_iff hl hi]
  intro j hj
  obtain ⟨x, hx, rfl⟩ := mem_indices.mp hj
  have hmem : i.event ∈ l := List.mem_of_find?_eq_some (find?_of_mem_insertions hi)
  exact UInt64.lt_of_le_of_ne (hs x hx i.event hmem) fun he => index_notMem_of_mem_insertions hi (he ▸ hj)

end BoostFeed.Feed.Store
