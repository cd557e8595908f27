import BoostFeed.Feed.Store

/-! What insertion and merging do to the events of a store. An index keeps its first copy, nothing that is
stored leaves, and the anchor of an insertion is one of the two neighbours it lands between. -/

namespace BoostFeed.Feed.Store

theorem mem_indices {s : Store} {i : UInt64} : i ∈ s.indices ↔ ∃ e ∈ s.events, e.index = i :=
  List.mem_map

theorem contains_iff {s : Store} {i : UInt64} : s.contains i = true ↔ i ∈ s.indices := by
  simp [contains, get?, mem_indices]

theorem indices_increasing (s : Store) : s.indices.Pairwise (· < ·) :=
  List.pairwise_map.mpr s.increasing

theorem indices_nodup (s : Store) : s.indices.Nodup :=
  s.indices_increasing.imp fun {a b} hab he => by subst he; exact UInt64.lt_irrefl _ hab

theorem eq_of_index_eq {s : Store} {a b : Event} (ha : a ∈ s.events) (hb : b ∈ s.events)
    (h : a.index = b.index) : a = b := by
  obtain ⟨l, hl⟩ := s
  simp only at ha hb
  induction l with
  | nil => simp at ha
  | cons x l ih =>
    obtain ⟨hx, hl⟩ := List.pairwise_cons.mp hl
    rcases List.mem_cons.mp ha with ha | ha <;> rcases List.mem_cons.mp hb with hb | hb
    · exact ha.trans hb.symm
    · exact absurd (h ▸ ha ▸ hx b hb) (UInt64.lt_irrefl _)
    · exact absurd (h ▸ hb ▸ hx a ha) (UInt64.lt_irrefl _)
    · exact ih hl ha hb

/-- Lists in increasing order of their keys are determined by what they hold. -/
theorem eq_of_increasing {α : Type} {key : α → UInt64} {l l' : List α} (h : l.Pairwise (fun a b => key a < key b))
    (h' : l'.Pairwise (fun a b => key a < key b)) (hmem : ∀ a, a ∈ l ↔ a ∈ l') : l = l' := by
  have hnodup {l : List α} (h : l.Pairwise (fun a b => key a < key b)) : l.Nodup :=
    h.imp fun {a b} hab he => by subst he; exact UInt64.lt_irrefl _ hab
  apply ((List.perm_ext_iff_of_nodup (hnodup h) (hnodup h')).mpr hmem).eq_of_pairwise ?_ h h'
  intro a b _ _ hab hba
  exact absurd (UInt64.lt_trans hab hba) (UInt64.lt_irrefl _)

/-- Stores are determined by which events they hold. -/
theorem eq_of_mem_iff {s t : Store} (h : ∀ e, e ∈ s.events ↔ e ∈ t.events) : s = t :=
  Store.ext (eq_of_increasing s.increasing t.increasing h)

theorem insert?_eq_none_iff {s : Store} {e : Event} :
    s.insert? e = none ↔ e.index ∈ s.indices := by
  rw [← contains_iff]
  unfold insert?
  split <;> simp_all

theorem lowest_eq_head? (s : Store) : s.lowest = s.indices.head? :=
  List.head?_map.symm

theorem mem_of_highest {s : Store} {h : UInt64} (hh : s.highest = some h) :
    ∃ e ∈ s.events, e.index = h := by
  obtain ⟨e, he, rfl⟩ := Option.map_eq_some_iff.mp hh
  exact ⟨e, List.mem_of_getLast? he, rfl⟩

theorem le_highest {s : Store} {h : UInt64} (hh : s.highest = some h) {e : Event}
    (he : e ∈ s.events) : e.index ≤ h := by
  obtain ⟨a, ha, rfl⟩ := Option.map_eq_some_iff.mp hh
  obtain ⟨front, hfront⟩ := List.getLast?_eq_some_iff.mp ha
  have hs := s.increasing
  rw [hfront] at hs he
  rcases List.mem_append.mp he with he | he
  · exact UInt64.le_of_lt ((List.pairwise_append.mp hs).2.2 e he a List.mem_cons_self)
  · rw [List.mem_singleton.mp he]
    exact UInt64.le_refl _

theorem highest_mem_indices {s : Store} {h : UInt64} (hh : s.highest = some h) : h ∈ s.indices :=
  mem_indices.mpr (mem_of_highest hh)

/-- An index lies above all that is stored where it lies above the highest, if there is one. -/
theorem all_highest_lt_iff {s : Store} {i : UInt64} : s.highest.all (· < i) = true ↔ ∀ j ∈ s.indices, j < i := by
  cases hh : s.highest with
  | none =>
    have hnil : s.events = [] := by simpa [highest] using hh
    simp [indices, hnil]
  | some h =>
    simp only [Option.all_some, decide_eq_true_eq]
    constructor
    · intro hlt j hj
      obtain ⟨x, hx, rfl⟩ := mem_indices.mp hj
      exact UInt64.lt_of_le_of_lt (le_highest hh hx) hlt
    · intro hall
      exact hall h (highest_mem_indices hh)

theorem any_highest_gt_of_notMem {s : Store} {i : UInt64} (hi : i ∉ s.indices) :
    s.highest.any (i < ·) = !s.highest.all (· < i) := by
  cases hh : s.highest with
  | none => rfl
  | some h =>
    have hne : i ≠ h := fun he => hi (he ▸ highest_mem_indices hh)
    simp only [Option.any_some, Option.all_some, ← decide_not, UInt64.not_lt, decide_eq_decide]
    exact ⟨UInt64.le_of_lt, fun hle => UInt64.lt_of_le_of_ne hle hne⟩

theorem exists_newest {s : Store} {e : Event} (he : e ∈ s.events) :
    ∃ x ∈ s.events, s.highest = some x.index ∧ ∀ y ∈ s.events, y.index ≤ x.index := by
  cases hl : s.events.getLast? with
  | none => simp [List.getLast?_eq_none_iff.mp hl] at he
  | some x =>
    have hh : s.highest = some x.index := by simp [highest, hl]
    exact ⟨x, List.mem_of_getLast? hl, hh, fun y hy => le_highest hh hy⟩

theorem mem_of_lowest {s : Store} {h : UInt64} (hh : s.lowest = some h) :
    ∃ e ∈ s.events, e.index = h := by
  obtain ⟨e, he, rfl⟩ := Option.map_eq_some_iff.mp hh
  exact ⟨e, List.mem_of_head? he, rfl⟩

theorem lowest_le {s : Store} {h : UInt64} (hh : s.lowest = some h) {e : Event} (he : e ∈ s.events) :
    h ≤ e.index := by
  obtain ⟨a, ha, rfl⟩ := Option.map_eq_some_iff.mp hh
  obtain ⟨back, hback⟩ := List.head?_eq_some_iff.mp ha
  have hs := s.increasing
  rw [hback] at hs he
  rcases List.mem_cons.mp he with rfl | he
  · exact UInt64.le_refl _
  · exact UInt64.le_of_lt ((List.pairwise_cons.mp hs).1 e he)

theorem lowest_isSome {s : Store} {e : Event} (he : e ∈ s.events) : ∃ h, s.lowest = some h := by
  cases hl : s.events.head? with
  | none => simp [List.head?_eq_none_iff.mp hl] at he
  | some x => exact ⟨x.index, by simp [lowest, hl]⟩

theorem lowest_eq_some_iff {s : Store} {l : UInt64} :
    s.lowest = some l ↔ l ∈ s.indices ∧ ∀ i ∈ s.indices, l ≤ i := by
  constructor
  · intro h
    refine ⟨mem_indices.mpr (mem_of_lowest h), fun i hi => ?_⟩
    obtain ⟨x, hx, rfl⟩ := mem_indices.mp hi
    exact lowest_le h hx
  · rintro ⟨hl, hle⟩
    obtain ⟨x, hx, rfl⟩ := mem_indices.mp hl
    obtain ⟨l, h⟩ := lowest_isSome hx
    have hmem : l ∈ s.indices := mem_indices.mpr (mem_of_lowest h)
    rw [h, UInt64.le_antisymm (lowest_le h hx) (hle l hmem)]

/-- What is stored in addition changes the lowest index only from below. -/
theorem lowest_eq_of_indices {s t : Store} (hsub : ∀ i ∈ s.indices, i ∈ t.indices)
    (hle : ∀ i ∈ t.indices, ∃ j ∈ s.indices, j ≤ i) : t.lowest = s.lowest := by
  ext l
  rw [lowest_eq_some_iff, lowest_eq_some_iff]
  constructor
  · rintro ⟨hl, hall⟩
    obtain ⟨j, hj, hjl⟩ := hle l hl
    have heq : j = l := UInt64.le_antisymm hjl (hall j (hsub j hj))
    exact ⟨heq ▸ hj, fun i hi => hall i (hsub i hi)⟩
  · rintro ⟨hl, hall⟩
    refine ⟨hsub l hl, fun i hi => ?_⟩
    obtain ⟨j, hj, hji⟩ := hle i hi
    exact UInt64.le_trans (hall j hj) hji

theorem isEmpty_indices (s : Store) : s.indices.isEmpty = s.isEmpty :=
  List.isEmpty_map

theorem mem_below {s : Store} {i : UInt64} {x : Event} : x ∈ s.below i ↔ x ∈ s.events ∧ x.index < i := by
  rw [← s.below_append_fromIndex i, List.mem_append]
  constructor
  · intro h
    exact ⟨.inl h, lt_of_mem_below h⟩
  · rintro ⟨h | h, hlt⟩
    · exact h
    · exact absurd hlt (UInt64.not_lt.mpr (le_of_mem_fromIndex h))

theorem mem_fromIndex {s : Store} {i : UInt64} {x : Event} : x ∈ s.fromIndex i ↔ x ∈ s.events ∧ i ≤ x.index := by
  rw [← s.below_append_fromIndex i, List.mem_append]
  constructor
  · intro h
    exact ⟨.inr h, le_of_mem_fromIndex h⟩
  · rintro ⟨h | h, hle⟩
    · exact absurd (lt_of_mem_below h) (UInt64.not_lt.mpr hle)
    · exact h

theorem below_eq_nil_iff {s : Store} {i : UInt64} : s.below i = [] ↔ ∀ j ∈ s.indices, i ≤ j := by
  simp only [List.eq_nil_iff_forall_not_mem, mem_below, mem_indices]
  constructor
  · rintro h j ⟨x, hx, rfl⟩
    exact UInt64.not_lt.mp fun hlt => h x ⟨hx, hlt⟩
  · rintro h x ⟨hx, hlt⟩
    exact absurd hlt (UInt64.not_lt.mpr (h _ ⟨x, hx, rfl⟩))

theorem fromIndex_eq_nil_iff {s : Store} {i : UInt64} : s.fromIndex i = [] ↔ ∀ j ∈ s.indices, j < i := by
  simp only [List.eq_nil_iff_forall_not_mem, mem_fromIndex, mem_indices]
  constructor
  · rintro h j ⟨x, hx, rfl⟩
    exact UInt64.not_le.mp fun hle => h x ⟨hx, hle⟩
  · rintro h x ⟨hx, hle⟩
    exact absurd (h _ ⟨x, hx, rfl⟩) (UInt64.not_lt.mpr hle)

theorem indices_markReplied (s : Store) (i : UInt64) : (s.markReplied i).indices = s.indices := by
  simp only [indices, markReplied, List.map_map]
  apply List.map_congr_left
  intro e _
  by_cases h : e.index = i <;> simp [h]

variable {s t : Store} {e : Event} {i : Insertion}

theorem insert?_event (h : s.insert? e = some (i, t)) : i.event = e := by
  unfold insert? at h
  split at h
  · cases h
  · cases h; rfl

theorem insert?_position (h : s.insert? e = some (i, t)) :
    i.position = (s.below e.index).length := by
  unfold insert? at h
  split at h
  · cases h
  · cases h; rfl

theorem insert?_events (h : s.insert? e = some (i, t)) :
    t.events = s.below e.index ++ e :: s.fromIndex e.index := by
  unfold insert? at h
  split at h
  · cases h
  · cases h; rfl

theorem insert?_anchor (h : s.insert? e = some (i, t)) :
    i.anchor = match s.neighbour e.index with
      | none => .sole
      | some n => if n < e.index then .after n else .before n := by
  unfold insert? at h
  split at h
  · cases h
  · cases h; rfl

theorem insert?_isNewest (h : s.insert? e = some (i, t)) :
    i.placement.isNewest = (s.fromIndex e.index).isEmpty := by
  unfold insert? at h
  split at h
  · cases h
  · cases h
    cases (s.below e.index).isEmpty <;> cases (s.fromIndex e.index).isEmpty <;> rfl

theorem mem_insert? (h : s.insert? e = some (i, t)) {x : Event} :
    x ∈ t.events ↔ x = e ∨ x ∈ s.events := by
  rw [insert?_events h, ← s.below_append_fromIndex e.index]
  simp only [List.mem_append, List.mem_cons]
  exact or_left_comm

/-- An event stands alone in an empty store, else directly behind the greatest stored event below it or
directly before the least one above it. -/
theorem anchor_adjacent (h : s.insert? e = some (i, t)) :
    match i.anchor with
    | .sole => s.events = []
    | .after n => (s.below e.index).getLast?.map Event.index = some n
    | .before n => (s.fromIndex e.index).head?.map Event.index = some n := by
  rw [insert?_anchor h]
  unfold neighbour
  cases hb : (s.below e.index).getLast? with
  | none =>
    cases ha : (s.fromIndex e.index).head? with
    | none =>
      have hs := s.below_append_fromIndex e.index
      rw [List.getLast?_eq_none_iff.mp hb, List.head?_eq_none_iff.mp ha] at hs
      exact hs.symm
    | some a =>
      have hle := le_of_mem_fromIndex (List.mem_of_head? ha)
      simp [nearer, UInt64.not_lt.mpr hle]
  | some b =>
    have hlt := lt_of_mem_below (List.mem_of_getLast? hb)
    cases ha : (s.fromIndex e.index).head? with
    | none => simp [nearer, hlt]
    | some a =>
      have hle := le_of_mem_fromIndex (List.mem_of_head? ha)
      by_cases hn : e.index - b.index ≤ a.index - e.index
      · simp [nearer, hn, hlt]
      · simp [nearer, hn, UInt64.not_lt.mpr hle]

theorem merge_cons_of_mem {l : List Event} (h : e.index ∈ s.indices) :
    s.merge (e :: l) = s.merge l := by
  simp [merge, insert?_eq_none_iff.mpr h]

theorem merge_cons_of_insert? {l : List Event} (h : s.insert? e = some (i, t)) :
    s.merge (e :: l) = (i :: (t.merge l).1, (t.merge l).2) := by
  simp [merge, h]

/-- The head of a batch is stored already, or it is inserted before the rest is merged. -/
@[elab_as_elim]
theorem merge_induction {motive : Store → List Event → Prop} (nil : ∀ s, motive s [])
    (known : ∀ s e l, e.index ∈ s.indices → motive s l → motive s (e :: l))
    (inserted : ∀ s e l i t, s.insert? e = some (i, t) → motive t l → motive s (e :: l))
    (s : Store) (l : List Event) : motive s l := by
  induction l generalizing s with
  | nil => exact nil s
  | cons e l ih =>
    cases h : s.insert? e with
    | none => exact known s e l (insert?_eq_none_iff.mp h) (ih s)
    | some p => exact inserted s e l p.1 p.2 h (ih p.2)

theorem merge_of_no_insertion {l : List Event} (h : (s.merge l).1 = []) : (s.merge l).2 = s := by
  induction s, l using merge_induction with
  | nil s => rfl
  | known s e l hm ih =>
    rw [merge_cons_of_mem hm] at h ⊢
    exact ih h
  | inserted s e l i t hi ih =>
    rw [merge_cons_of_insert? hi] at h
    cases h

theorem mem_merge_of_mem {x : Event} (l : List Event) (hx : x ∈ s.events) :
    x ∈ (s.merge l).2.events := by
  induction s, l using merge_induction with
  | nil s => exact hx
  | known s e l hm ih =>
    rw [merge_cons_of_mem hm]
    exact ih hx
  | inserted s e l i t h ih =>
    rw [merge_cons_of_insert? h]
    exact ih ((mem_insert? h).mpr (.inr hx))

theorem mem_or_mem_of_mem_merge {x : Event} {l : List Event} (hx : x ∈ (s.merge l).2.events) :
    x ∈ s.events ∨ x ∈ l := by
  induction s, l using merge_induction with
  | nil s => exact .inl hx
  | known s e l hm ih =>
    rw [merge_cons_of_mem hm] at hx
    exact (ih hx).imp_right (List.mem_cons_of_mem e)
  | inserted s e l i t h ih =>
    rw [merge_cons_of_insert? h] at hx
    rcases ih hx with hx | hx
    · rcases (mem_insert? h).mp hx with rfl | hx
      · exact .inr List.mem_cons_self
      · exact .inl hx
    · exact .inr (List.mem_cons_of_mem e hx)

theorem index_mem_merge {l : List Event} (h : e ∈ l) : e.index ∈ (s.merge l).2.indices := by
  induction s, l using merge_induction with
  | nil s => cases h
  | known s a l hm ih =>
    rw [merge_cons_of_mem hm]
    rcases List.mem_cons.mp h with rfl | h
    · obtain ⟨x, hx, he⟩ := mem_indices.mp hm
      exact mem_indices.mpr ⟨x, mem_merge_of_mem l hx, he⟩
    · exact ih h
  | inserted s a l i t ha ih =>
    rw [merge_cons_of_insert? ha]
    rcases List.mem_cons.mp h with rfl | h
    · exact mem_indices.mpr ⟨e, mem_merge_of_mem l ((mem_insert? ha).mpr (.inl rfl)), rfl⟩
    · exact ih h

theorem mem_indices_merge {l : List Event} {j : UInt64} :
    j ∈ (s.merge l).2.indices ↔ j ∈ s.indices ∨ ∃ x ∈ l, x.index = j := by
  constructor
  · intro hj
    obtain ⟨x, hx, rfl⟩ := mem_indices.mp hj
    rcases mem_or_mem_of_mem_merge hx with hx | hx
    · exact .inl (mem_indices.mpr ⟨x, hx, rfl⟩)
    · exact .inr ⟨x, hx, rfl⟩
  · rintro (hj | ⟨x, hx, rfl⟩)
    · obtain ⟨x, hx, rfl⟩ := mem_indices.mp hj
      exact mem_indices.mpr ⟨x, mem_merge_of_mem l hx, rfl⟩
    · exact index_mem_merge hx

/-- Under a new index, what all copies in the batch are is stored. -/
theorem mem_merge_of_new {l : List Event} {x : Event} (hx : x ∈ l) (hnew : x.index ∉ s.indices)
    (h : ∀ a ∈ l, a.index = x.index → a = x) : x ∈ (s.merge l).2.events := by
  obtain ⟨y, hy, hi⟩ := mem_indices.mp (index_mem_merge (s := s) hx)
  rcases mem_or_mem_of_mem_merge hy with hs | hl
  · exact absurd (mem_indices.mpr ⟨y, hs, hi⟩) hnew
  · rwa [← h y hl hi]

/-- Where copies of an index never differ, merging is union. -/
theorem mem_merge_of_coherent {l : List Event} {x : Event}
    (h : ∀ a b : Event, (a ∈ s.events ∨ a ∈ l) → (b ∈ s.events ∨ b ∈ l) → a.index = b.index → a = b) :
    x ∈ (s.merge l).2.events ↔ x ∈ s.events ∨ x ∈ l := by
  constructor
  · exact mem_or_mem_of_mem_merge
  · intro hx
    have hj : x.index ∈ (s.merge l).2.indices :=
      mem_indices_merge.mpr (hx.imp (fun hx => mem_indices.mpr ⟨x, hx, rfl⟩) fun hx => ⟨x, hx, rfl⟩)
    obtain ⟨y, hy, he⟩ := mem_indices.mp hj
    rwa [← h y x (mem_or_mem_of_mem_merge hy) hx he]

end BoostFeed.Feed.Store
