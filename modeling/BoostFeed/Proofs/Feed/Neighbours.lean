import Mathlib.Data.Nat.Dist
import Mathlib.Tactic.Tauto
import BoostFeed.Proofs.Feed.Insertions

/-! The neighbours of a place in the store. Of the last event below an index and the first at or above it one is the
closest of all that are stored, and it is the one to which a new event is anchored. -/

namespace BoostFeed.Feed.Store

variable {s t : Store} {e : Event} {i c j : UInt64}

/-- The index that stands last below the given one. -/
def lower (s : Store) (i : UInt64) : Option UInt64 := (s.below i).getLast?.map Event.index

/-- The index that stands first at or above the given one. -/
def upper (s : Store) (i : UInt64) : Option UInt64 := (s.fromIndex i).head?.map Event.index

theorem lower_eq_highest (s : Store) (i : UInt64) :
    s.lower i = highest ⟨s.below i, s.increasing.sublist (List.takeWhile_sublist _)⟩ := rfl

theorem upper_eq_lowest (s : Store) (i : UInt64) :
    s.upper i = lowest ⟨s.fromIndex i, s.increasing.sublist (List.dropWhile_sublist _)⟩ := rfl

theorem lower_spec (h : s.lower i = some c) : c ∈ s.indices ∧ c < i ∧ ∀ j ∈ s.indices, j < i → j ≤ c := by
  rw [lower_eq_highest] at h
  obtain ⟨x, hx, rfl⟩ := mem_of_highest h
  obtain ⟨hmem, hlt⟩ := mem_below.mp hx
  refine ⟨mem_indices.mpr ⟨x, hmem, rfl⟩, hlt, fun j hj hji => ?_⟩
  obtain ⟨y, hy, rfl⟩ := mem_indices.mp hj
  exact le_highest h (mem_below.mpr ⟨hy, hji⟩)

theorem upper_spec (h : s.upper i = some c) : c ∈ s.indices ∧ i ≤ c ∧ ∀ j ∈ s.indices, i ≤ j → c ≤ j := by
  rw [upper_eq_lowest] at h
  obtain ⟨x, hx, rfl⟩ := mem_of_lowest h
  obtain ⟨hmem, hle⟩ := mem_fromIndex.mp hx
  refine ⟨mem_indices.mpr ⟨x, hmem, rfl⟩, hle, fun j hj hij => ?_⟩
  obtain ⟨y, hy, rfl⟩ := mem_indices.mp hj
  exact lowest_le h (mem_fromIndex.mpr ⟨hy, hij⟩)

theorem exists_lower (hj : j ∈ s.indices) (hlt : j < i) : ∃ c, s.lower i = some c := by
  cases h : (s.below i).getLast? with
  | none => exact absurd hlt (UInt64.not_lt.mpr (below_eq_nil_iff.mp (List.getLast?_eq_none_iff.mp h) j hj))
  | some x => exact ⟨x.index, by simp [lower, h]⟩

theorem exists_upper (hj : j ∈ s.indices) (hle : i ≤ j) : ∃ c, s.upper i = some c := by
  cases h : (s.fromIndex i).head? with
  | none => exact absurd (fromIndex_eq_nil_iff.mp (List.head?_eq_none_iff.mp h) j hj) (UInt64.not_lt.mpr hle)
  | some x => exact ⟨x.index, by simp [upper, h]⟩

/-- No stored index lies between the two neighbours. -/
theorem le_lower_or_upper_le (hj : j ∈ s.indices) :
    (∃ c, s.lower i = some c ∧ j ≤ c) ∨ ∃ c, s.upper i = some c ∧ c ≤ j := by
  rcases UInt64.lt_or_le j i with hlt | hle
  · obtain ⟨c, hc⟩ := exists_lower hj hlt
    exact .inl ⟨c, hc, (lower_spec hc).2.2 j hj hlt⟩
  · obtain ⟨c, hc⟩ := exists_upper hj hle
    exact .inr ⟨c, hc, (upper_spec hc).2.2 j hj hle⟩

/-- Seen from an index, one lies nearer than another, or as near and not above it. -/
def Precedes (i c j : UInt64) : Prop :=
  Nat.dist c.toNat i.toNat < Nat.dist j.toNat i.toNat ∨
    Nat.dist c.toNat i.toNat = Nat.dist j.toNat i.toNat ∧ c ≤ j

/-- A stored index at the least distance, and of two at that distance the lower. -/
structure IsClosest (s : Store) (i c : UInt64) : Prop where
  mem : c ∈ s.indices
  precedes : ∀ j ∈ s.indices, Precedes i c j

theorem Precedes.refl (i c : UInt64) : Precedes i c c := .inr ⟨rfl, UInt64.le_refl c⟩

/-- Indices below a place precede one another from above, those above it from below. -/
theorem Precedes.trans_lower {lo : UInt64} (h : Precedes i c lo) (hlo : lo < i) (hj : j ≤ lo) :
    Precedes i c j := by
  unfold Precedes Nat.dist at *
  simp only [UInt64.le_iff_toNat_le, UInt64.lt_iff_toNat_lt] at *
  omega

theorem Precedes.trans_upper {hi : UInt64} (h : Precedes i c hi) (hhi : i ≤ hi) (hj : hi ≤ j) :
    Precedes i c j := by
  unfold Precedes Nat.dist at *
  simp only [UInt64.le_iff_toNat_le] at *
  omega

/-- What precedes both neighbours precedes all that is stored. -/
theorem isClosest_of_precedes (hmem : c ∈ s.indices) (hlower : ∀ lo, s.lower i = some lo → Precedes i c lo)
    (hupper : ∀ hi, s.upper i = some hi → Precedes i c hi) : s.IsClosest i c where
  mem := hmem
  precedes j hj := by
    rcases le_lower_or_upper_le (i := i) hj with ⟨lo, hlo, hle⟩ | ⟨hi, hhi, hle⟩
    · exact (hlower lo hlo).trans_lower (lower_spec hlo).2.1 hle
    · exact (hupper hi hhi).trans_upper (upper_spec hhi).2.1 hle

/-- The differences to the two neighbours do not wrap around. -/
theorem gaps_to_neighbours {lo hi : UInt64} (hlo : s.lower i = some lo) (hhi : s.upper i = some hi) :
    (i - lo).toNat + lo.toNat = i.toNat ∧ (hi - i).toNat + i.toNat = hi.toNat := by
  have hlt := (lower_spec hlo).2.1
  have hle := (upper_spec hhi).2.1
  rw [UInt64.toNat_sub_of_le _ _ (UInt64.le_of_lt hlt), UInt64.toNat_sub_of_le _ _ hle]
  rw [UInt64.lt_iff_toNat_lt] at hlt
  rw [UInt64.le_iff_toNat_le] at hle
  omega

theorem neighbour_eq (s : Store) (i : UInt64) : s.neighbour i = nearer i (s.lower i) (s.upper i) := rfl

/-- The comparison of the two gaps decides which neighbour precedes the other. -/
theorem precedes_of_gaps {lo hi : UInt64} (hlo : s.lower i = some lo) (hhi : s.upper i = some hi) :
    if i - lo ≤ hi - i then Precedes i lo hi else Precedes i hi lo := by
  obtain ⟨hbelow, habove⟩ := gaps_to_neighbours hlo hhi
  simp only [Precedes, Nat.dist, UInt64.le_iff_toNat_le]
  split <;> omega

theorem isClosest_neighbour (h : s.neighbour i = some c) : s.IsClosest i c := by
  rw [neighbour_eq] at h
  cases hlo : s.lower i with
  | none =>
    rw [hlo] at h
    have hmem := (upper_spec h).1
    exact isClosest_of_precedes hmem (by simp [hlo]) fun hi hhi => by
      cases hhi.symm.trans h
      exact .refl i c
  | some lo =>
    cases hhi : s.upper i with
    | none =>
      rw [hlo, hhi] at h
      cases h
      exact isClosest_of_precedes (lower_spec hlo).1 (by simp [hlo, Precedes.refl]) (by simp [hhi])
    | some hi =>
      have hgaps := precedes_of_gaps hlo hhi
      rw [hlo, hhi, nearer, Option.some.injEq] at h
      subst h
      split at hgaps
      next hle =>
        rw [if_pos hle]
        exact isClosest_of_precedes (lower_spec hlo).1 (by simp [hlo, Precedes.refl]) (by simpa [hhi] using hgaps)
      next hlt =>
        rw [if_neg hlt]
        exact isClosest_of_precedes (upper_spec hhi).1 (by simpa [hlo] using hgaps) (by simp [hhi, Precedes.refl])

theorem neighbour_eq_none_iff : s.neighbour i = none ↔ s.isEmpty = true := by
  rw [neighbour_eq]
  constructor
  · intro h
    rw [isEmpty, List.isEmpty_iff, List.eq_nil_iff_forall_not_mem]
    intro x hx
    rcases le_lower_or_upper_le (i := i) (mem_indices.mpr ⟨x, hx, rfl⟩) with ⟨c, hc, -⟩ | ⟨c, hc, -⟩
    · cases hu : s.upper i <;> simp [hc, hu, nearer] at h
    · cases hl : s.lower i <;> simp [hc, hl, nearer] at h
  · intro h
    have hnil : s.events = [] := List.isEmpty_iff.mp h
    simp [lower, upper, below, fromIndex, hnil, nearer]

theorem closest_eq_none_iff : s.closest i = none ↔ s.isEmpty = true := by
  unfold closest
  split
  next h =>
    obtain ⟨x, hx, -⟩ := mem_indices.mp (contains_iff.mp h)
    simp [isEmpty, List.ne_nil_of_mem hx]
  next => exact neighbour_eq_none_iff

theorem isClosest_closest (h : s.closest i = some c) : s.IsClosest i c := by
  unfold closest at h
  split at h
  next hstored =>
    cases h
    refine ⟨contains_iff.mp hstored, fun j _ => ?_⟩
    simp only [Precedes, Nat.dist, UInt64.le_iff_toNat_le]
    omega
  next => exact isClosest_neighbour h

section Insertion

variable {ins : Insertion}

/-- Where a new event lies is told by whether anything stands below it, and whether above it. -/
theorem insert?_placement (h : s.insert? e = some (ins, t)) :
    (ins.placement = .newest ↔ s.below e.index ≠ [] ∧ s.fromIndex e.index = []) ∧
    (ins.placement = .oldest ↔ s.below e.index = [] ∧ s.fromIndex e.index ≠ []) ∧
    (ins.placement = .between ↔ s.below e.index ≠ [] ∧ s.fromIndex e.index ≠ []) := by
  unfold insert? at h
  split at h
  · cases h
  · cases h
    cases s.below e.index <;> cases s.fromIndex e.index <;> simp

theorem indices_insert? (h : s.insert? e = some (ins, t)) :
    t.indices = (s.below e.index).map Event.index ++ e.index :: (s.fromIndex e.index).map Event.index := by
  simp [indices, insert?_events h]

theorem infix_of_lower (h : s.insert? e = some (ins, t)) (hc : s.lower e.index = some c) :
    [c, e.index] <:+: t.indices := by
  rw [lower, ← List.getLast?_map] at hc
  obtain ⟨front, hfront⟩ := List.getLast?_eq_some_iff.mp hc
  exact ⟨front, (s.fromIndex e.index).map Event.index, by simp [indices_insert? h, hfront]⟩

theorem infix_of_upper (h : s.insert? e = some (ins, t)) (hc : s.upper e.index = some c) :
    [e.index, c] <:+: t.indices := by
  rw [upper, ← List.head?_map] at hc
  obtain ⟨back, hback⟩ := List.head?_eq_some_iff.mp hc
  exact ⟨(s.below e.index).map Event.index, back, by simp [indices_insert? h, hback]⟩

theorem length_below (s : Store) (i : UInt64) : (s.below i).length = s.indices.countP (· < i) := by
  have hbelow : (s.below i).countP (fun x => decide (x.index < i)) = (s.below i).length :=
    List.countP_eq_length.mpr fun x hx => decide_eq_true (lt_of_mem_below hx)
  have habove : (s.fromIndex i).countP (fun x => decide (x.index < i)) = 0 :=
    List.countP_eq_zero.mpr fun x hx => by simpa using le_of_mem_fromIndex hx
  rw [indices, List.countP_map, ← s.below_append_fromIndex i, List.countP_append]
  change _ = (s.below i).countP (fun x => decide (x.index < i)) +
    (s.fromIndex i).countP (fun x => decide (x.index < i))
  rw [hbelow, habove, Nat.add_zero]

/-- Where a new event comes to stand among stored ones. -/
structure Situated (s t : Store) (ins : Insertion) : Prop where
  /-- It is anchored to the closest stored event, and stands directly beside it from then on. -/
  anchor : ∃ c, s.closest ins.event.index = some c ∧
    if c < ins.event.index then ins.anchor = .after c ∧ [c, ins.event.index] <:+: t.indices
    else ins.anchor = .before c ∧ [ins.event.index, c] <:+: t.indices
  newest : ins.placement = .newest ↔ ∀ j ∈ s.indices, j < ins.event.index
  oldest : ins.placement = .oldest ↔ ∀ j ∈ s.indices, ins.event.index < j
  between : ins.placement = .between ↔
    (∃ j ∈ s.indices, j < ins.event.index) ∧ ∃ j ∈ s.indices, ins.event.index < j
  position : ins.position = s.indices.countP (· < ins.event.index)

theorem anchored_insert? (h : s.insert? e = some (ins, t)) (hc : s.closest e.index = some c) :
    if c < e.index then ins.anchor = .after c ∧ [c, e.index] <:+: t.indices
    else ins.anchor = .before c ∧ [e.index, c] <:+: t.indices := by
  have hnew : s.contains e.index = false := contains_eq_false_iff.mpr (index_notMem_of_insert? h)
  rw [closest, if_neg (by simp [hnew])] at hc
  have hanchor := insert?_anchor h
  have hadjacent := anchor_adjacent h
  simp only [hc] at hanchor
  split
  next hlt =>
    rw [if_pos hlt] at hanchor
    rw [hanchor] at hadjacent
    exact ⟨hanchor, infix_of_lower h hadjacent⟩
  next hge =>
    rw [if_neg hge] at hanchor
    rw [hanchor] at hadjacent
    exact ⟨hanchor, infix_of_upper h hadjacent⟩

theorem situated_insert? (h : s.insert? e = some (ins, t)) (hstore : s.isEmpty = false) : Situated s t ins := by
  obtain rfl := insert?_event h
  obtain ⟨hnewest, holdest, hbetween⟩ := insert?_placement h
  have hsplit : ¬(s.below ins.event.index = [] ∧ s.fromIndex ins.event.index = []) := by
    rw [← List.append_eq_nil_iff, below_append_fromIndex, ← List.isEmpty_iff]
    exact Bool.eq_false_iff.mp hstore
  have hnew : ∀ j ∈ s.indices, ins.event.index ≤ j ↔ ins.event.index < j := fun j hj =>
    ⟨fun hle => UInt64.lt_of_le_of_ne hle fun hi => index_notMem_of_insert? h (hi ▸ hj), UInt64.le_of_lt⟩
  have hbelow : s.below ins.event.index = [] ↔ ∀ j ∈ s.indices, ins.event.index < j :=
    below_eq_nil_iff.trans (forall₂_congr hnew)
  have habove : s.fromIndex ins.event.index = [] ↔ ∀ j ∈ s.indices, j < ins.event.index := fromIndex_eq_nil_iff
  refine ⟨?_, ?_, ?_, ?_, ?_⟩
  · cases hc : s.closest ins.event.index with
    | none => simp [closest_eq_none_iff.mp hc] at hstore
    | some c => exact ⟨c, rfl, anchored_insert? h hc⟩
  · rw [hnewest, ← habove]
    tauto
  · rw [holdest, ← hbelow]
    tauto
  · have hsome : (∃ j ∈ s.indices, j < ins.event.index) ↔ s.below ins.event.index ≠ [] := by
      simp [below_eq_nil_iff]
    have hsome' : (∃ j ∈ s.indices, ins.event.index < j) ↔ s.fromIndex ins.event.index ≠ [] := by
      rw [Ne, habove]
      simp only [not_forall, UInt64.not_lt, exists_prop]
      exact exists_congr fun j => and_congr_right fun hj => (hnew j hj).symm
    rw [hbetween, hsome, hsome']
  · rw [insert?_position h, length_below]

theorem insert?_of_isEmpty (h : s.insert? e = some (ins, t)) (hstore : s.isEmpty = true) :
    ins = ⟨e, .sole, .only, 0⟩ ∧ t.events = [e] := by
  obtain rfl : s = ∅ := Store.ext (List.isEmpty_iff.mp hstore)
  have hempty : (∅ : Store).insert? e = some (⟨e, .sole, .only, 0⟩, ⟨[e], List.pairwise_singleton _ e⟩) := rfl
  cases hempty.symm.trans h
  exact ⟨rfl, rfl⟩

/-- The closest index is a stored one at the least distance, the lower of two, and only an empty store has none; the
differences that are compared to find it do not wrap around. An event is inserted unless its index is stored: alone
into an empty store, else beside the event of the closest index. -/
theorem insertions_beside_closest (s : Store) :
    (∀ i, match s.closest i with
      | none => s.isEmpty = true
      | some c => s.isEmpty = false ∧ s.IsClosest i c) ∧
    (∀ i lo hi, s.lower i = some lo → s.upper i = some hi →
      s.neighbour i = some (if i - lo ≤ hi - i then lo else hi) ∧
      (i - lo).toNat + lo.toNat = i.toNat ∧ (hi - i).toNat + i.toNat = hi.toNat) ∧
    ∀ e, match s.insert? e with
      | none => e.index ∈ s.indices
      | some (ins, t) => e.index ∉ s.indices ∧ ins.event = e ∧
        if s.isEmpty then ins = ⟨e, .sole, .only, 0⟩ ∧ t.events = [e] else Situated s t ins := by
  refine ⟨fun i => ?_, fun i lo hi hlo hhi => ?_, fun e => ?_⟩
  · cases hc : s.closest i with
    | none => exact closest_eq_none_iff.mp hc
    | some c =>
      refine ⟨Bool.eq_false_iff.mpr fun hempty => ?_, isClosest_closest hc⟩
      cases (closest_eq_none_iff.mpr hempty).symm.trans hc
  · refine ⟨?_, gaps_to_neighbours hlo hhi⟩
    rw [neighbour_eq, hlo, hhi, nearer]
  · cases hi : s.insert? e with
    | none => exact insert?_eq_none_iff.mp hi
    | some p =>
      refine ⟨index_notMem_of_insert? hi, insert?_event hi, ?_⟩
      split
      next hempty => exact insert?_of_isEmpty hi hempty
      next hstore => exact situated_insert? hi (Bool.eq_false_iff.mpr hstore)

/-- At both ends of the range, on a tie, and on both sides of a middle. -/
example :
    let s := ((∅ : Store).merge ([0, 10, 20, 18446744073709551615].map ({ index := · }))).2
    [0, 15, 16, 9223372036854775817, 9223372036854775818, 18446744073709551614].map s.closest =
      [some 0, some 10, some 20, some 20, some 18446744073709551615, some 18446744073709551615] := by
  decide +kernel

end Insertion

end BoostFeed.Feed.Store
