import BoostFeed.Numerology.Annotation
import BoostFeed.Proofs.Numerology.Matches

/-! Digits and their use. Slots are stretches of unused digits with used ones between them. What is found in the
stretches uses digits that no pattern has used, each of them once, and whatever stands in unused digits stands in one
stretch. -/

namespace BoostFeed.Numerology

open BoostFeed.Number (Digit)

/-- A row of digits stands at a place, all of them unused. -/
def Stands (slots : Slots) (i : Nat) (ds : List Digit) : Prop := ds.map some <+: slots.drop i

section Runs

variable {slots : Slots} {ds w : List Digit} {i k : Nat}

theorem stands_iff : Stands slots i ds ↔ ∀ k, (h : k < ds.length) → slots[i + k]? = some (some ds[k]) := by
  simp [Stands, List.prefix_iff_getElem?]

theorem exists_stretch (slots : Slots) :
    ∃ w : List Digit, slots = w.map some ∨ ∃ rest : Slots, slots = w.map some ++ none :: rest := by
  induction slots with
  | nil => exact ⟨[], .inl rfl⟩
  | cons slot slots ih =>
    cases slot with
    | none => exact ⟨[], .inr ⟨slots, rfl⟩⟩
    | some d =>
      obtain ⟨w, rfl | ⟨rest, rfl⟩⟩ := ih
      · exact ⟨d :: w, .inl rfl⟩
      · exact ⟨d :: w, .inr ⟨rest, rfl⟩⟩

/-- Slots are one stretch of unused digits, or one that ends at a used digit with more slots behind it. -/
@[elab_as_elim]
theorem stretch_induction {motive : Slots → Prop} (unused : ∀ w : List Digit, motive (w.map some))
    (used : ∀ (w : List Digit) (rest : Slots), motive rest → motive (w.map some ++ none :: rest)) (slots : Slots) :
    motive slots := by
  obtain ⟨w, rfl | ⟨rest, rfl⟩⟩ := exists_stretch slots
  · exact unused w
  · exact used w rest (stretch_induction unused used rest)
termination_by slots.length

/-- A stretch at the front is a run unless it is empty. -/
def frontRun (w : List Digit) : List (Nat × List Digit) := if w.isEmpty then [] else [(0, w)]

theorem mem_frontRun {r : Nat × List Digit} : r ∈ frontRun w ↔ w ≠ [] ∧ r = (0, w) := by
  unfold frontRun
  cases w <;> simp

/-- A run as it lies behind so many more slots. -/
def behind (k : Nat) (r : Nat × List Digit) : Nat × List Digit := (k + r.1, r.2)

theorem runsFrom_append (w : List Digit) (slots : Slots) (place : Nat) (run : List Digit) :
    runsFrom place run (w.map some ++ slots) = runsFrom (place + w.length) (w.reverse ++ run) slots := by
  induction w generalizing place run with
  | nil => rfl
  | cons d w ih =>
    rw [List.map_cons, List.cons_append, runsFrom, ih, List.length_cons, List.reverse_cons, List.append_assoc,
      Nat.add_assoc, Nat.add_comm 1]
    rfl

theorem runsFrom_behind (slots : Slots) {place : Nat} {run : List Digit} (h : run.length ≤ place) (k : Nat) :
    runsFrom (k + place) run slots = (runsFrom place run slots).map (behind k) := by
  have hrun {place : Nat} {run : List Digit} (h : run.length ≤ place) :
      (if run.isEmpty then [] else [(k + place - run.length, run.reverse)]) =
        (if run.isEmpty then [] else [(place - run.length, run.reverse)]).map (behind k) := by
    rw [Nat.add_sub_assoc h]
    split <;> rfl
  induction slots generalizing place run with
  | nil => exact hrun h
  | cons slot slots ih =>
    cases slot with
    | some d =>
      have hlonger : (d :: run).length ≤ place + 1 := Nat.succ_le_succ h
      exact ih hlonger
    | none =>
      have hempty : ([] : List Digit).length ≤ place + 1 := Nat.zero_le _
      rw [runsFrom, runsFrom, List.map_append, hrun h]
      exact congrArg _ (ih hempty)

theorem runs_map_some (w : List Digit) : runs (w.map some) = frontRun w := by
  have h := runsFrom_append w [] 0 []
  simpa [runs, runsFrom, frontRun] using h

theorem runs_append_none (w : List Digit) (rest : Slots) :
    runs (w.map some ++ none :: rest) = frontRun w ++ (runs rest).map (behind (w.length + 1)) := by
  have hempty : ([] : List Digit).length ≤ 0 := Nat.le_refl _
  have hrest := runsFrom_behind rest hempty (w.length + 1)
  rw [runs, runsFrom_append, runsFrom, Nat.zero_add, runs, ← hrest]
  simp [frontRun]

theorem prefix_of_map_some (h : ds.map some <+: w.map some) : ds <+: w := by
  simpa [List.filterMap_map] using h.filterMap id

/-- Digits that stand before a used one end there. -/
theorem prefix_of_prefix_append_none (h : ds.map some <+: w.map some ++ none :: slots) : ds <+: w := by
  induction w generalizing ds with
  | nil =>
    cases ds with
    | nil => exact List.nil_prefix
    | cons d ds => simp [List.cons_prefix_cons] at h
  | cons c w ih =>
    cases ds with
    | nil => exact List.nil_prefix
    | cons d ds =>
      simp only [List.map_cons, List.cons_append, List.cons_prefix_cons, Option.some.injEq] at h
      exact List.cons_prefix_cons.mpr ⟨h.1, ih h.2⟩

theorem stands_map_some : Stands (w.map some) k ds ↔ ds <+: w.drop k := by
  rw [Stands, ← List.map_drop]
  exact ⟨prefix_of_map_some, fun h => h.map some⟩

/-- Digits that stand unused stand on one side of a used digit. -/
theorem stands_append_none (hds : ds ≠ []) :
    Stands (w.map some ++ none :: slots) k ds ↔ ds <+: w.drop k ∨ ∃ j, k = w.length + 1 + j ∧ Stands slots j ds := by
  rcases Nat.lt_or_ge w.length k with hk | hk
  · obtain ⟨j, rfl⟩ := Nat.exists_eq_add_of_le hk
    have hnone : w.drop (w.length.succ + j) = [] := List.drop_eq_nil_iff.mpr (by omega)
    have hdrop : (w.map some ++ none :: slots).drop (w.length.succ + j) = slots.drop j := by
      rw [Nat.succ_add, ← Nat.add_succ, ← List.length_map some, List.drop_length_add_append, List.drop_succ_cons]
    rw [hnone, List.prefix_nil, or_iff_right hds, Stands, hdrop]
    constructor
    · intro h
      exact ⟨j, rfl, h⟩
    · rintro ⟨j', hj, h⟩
      rwa [Nat.add_left_cancel hj]
  · have hdrop : (w.map some ++ none :: slots).drop k = (w.drop k).map some ++ none :: slots := by
      rw [List.drop_append_of_le_length (by simpa using hk), List.map_drop]
    rw [Stands, hdrop]
    constructor
    · intro h
      exact .inl (prefix_of_prefix_append_none h)
    · rintro (h | ⟨j, hj, -⟩)
      · exact (h.map some).trans (List.prefix_append _ _)
      · omega

/-- A run consists of unused digits. -/
theorem stands_of_mem_runs {r : Nat × List Digit} (h : r ∈ runs slots) : r.2 ≠ [] ∧ Stands slots r.1 r.2 := by
  induction slots using stretch_induction generalizing r with
  | unused w =>
    rw [runs_map_some, mem_frontRun] at h
    obtain ⟨hw, rfl⟩ := h
    exact ⟨hw, List.prefix_refl _⟩
  | used w rest ih =>
    rw [runs_append_none, List.mem_append, mem_frontRun, List.mem_map] at h
    rcases h with ⟨hw, rfl⟩ | ⟨r, hr, rfl⟩
    · exact ⟨hw, List.prefix_append _ _⟩
    · obtain ⟨hne, hstands⟩ := ih hr
      exact ⟨hne, (stands_append_none hne).mpr (.inr ⟨r.1, rfl, hstands⟩)⟩

theorem unused_of_mem_runs {r : Nat × List Digit} (hr : r ∈ runs slots) (hle : r.1 ≤ i)
    (hlt : i < r.1 + r.2.length) : ∃ d, slots[i]? = some (some d) := by
  obtain ⟨-, hrun⟩ := stands_of_mem_runs hr
  obtain ⟨k, rfl⟩ := Nat.exists_eq_add_of_le hle
  have hk : k < r.2.length := Nat.lt_of_add_lt_add_left hlt
  exact ⟨r.2[k], stands_iff.mp hrun k hk⟩

/-- Runs are apart. -/
theorem runs_apart (slots : Slots) : (runs slots).Pairwise fun r q => r.1 + r.2.length ≤ q.1 := by
  have hfront (w : List Digit) : (frontRun w).Pairwise fun r q => r.1 + r.2.length ≤ q.1 := by
    unfold frontRun
    split
    · exact .nil
    · exact List.pairwise_singleton _ _
  induction slots using stretch_induction with
  | unused w =>
    rw [runs_map_some]
    exact hfront w
  | used w rest ih =>
    rw [runs_append_none]
    refine List.pairwise_append.mpr ⟨hfront w, List.pairwise_map.mpr (ih.imp fun h => ?_), fun r hr q hq => ?_⟩
    · simp only [behind]
      omega
    · obtain ⟨-, rfl⟩ := mem_frontRun.mp hr
      obtain ⟨q, -, rfl⟩ := List.mem_map.mp hq
      simp only [behind]
      omega

/-- Digits that stand unused stand in a run. -/
theorem exists_run (hds : ds ≠ []) (h : Stands slots k ds) :
    ∃ r ∈ runs slots, r.1 ≤ k ∧ ds <+: r.2.drop (k - r.1) := by
  have hfront {w : List Digit} {k : Nat} (h : ds <+: w.drop k) :
      ∃ r ∈ frontRun w, r.1 ≤ k ∧ ds <+: r.2.drop (k - r.1) := by
    have hw : w ≠ [] := by
      rintro rfl
      simp [hds] at h
    exact ⟨(0, w), mem_frontRun.mpr ⟨hw, rfl⟩, Nat.zero_le k, h⟩
  induction slots using stretch_induction generalizing k with
  | unused w =>
    rw [runs_map_some]
    exact hfront (stands_map_some.mp h)
  | used w rest ih =>
    rw [runs_append_none]
    rcases (stands_append_none hds).mp h with hleft | ⟨j, rfl, hright⟩
    · obtain ⟨r, hr, hle⟩ := hfront hleft
      exact ⟨r, List.mem_append_left _ hr, hle⟩
    · obtain ⟨r, hr, hle, hstands⟩ := ih hright
      refine ⟨behind _ r, List.mem_append_right _ (List.mem_map_of_mem hr), Nat.add_le_add_left hle _, ?_⟩
      simpa [behind, Nat.add_sub_add_left] using hstands

end Runs

/-- Whether a span reaches over a place. -/
def Span.Covers (s : Span) (i : Nat) : Prop := s.start ≤ i ∧ i < s.stop

instance (s : Span) (i : Nat) : Decidable (s.Covers i) := inferInstanceAs (Decidable (_ ∧ _))

/-- Spans without a common place. -/
def Span.Apart (s t : Span) : Prop := s.stop ≤ t.start ∨ t.stop ≤ s.start

section Use

variable {slots : Slots} {s : Span} {spans : List Span}

theorem getElem?_use (slots : Slots) (s : Span) (i : Nat) :
    (use slots s)[i]? = slots[i]?.map fun slot => if s.Covers i then none else slot := by
  rw [use, List.getElem?_mapIdx]
  rfl

/-- Where one of the spans reaches, the digits are used; elsewhere they stay. -/
theorem getElem?_foldl_use (spans : List Span) (slots : Slots) (i : Nat) :
    (spans.foldl use slots)[i]? = slots[i]?.map fun slot => if ∃ s ∈ spans, s.Covers i then none else slot := by
  induction spans generalizing slots with
  | nil => simp
  | cons s spans ih =>
    rw [List.foldl_cons, ih, getElem?_use, Option.map_map]
    refine congrArg (Option.map · _) (funext fun slot => ?_)
    by_cases hs : s.Covers i <;> simp [hs]

end Use

section Find

variable {p : Pattern} {slots : Slots} {s : Span}

theorem mem_findSpans : s ∈ findSpans p slots ↔
    ∃ r ∈ runs slots, ∃ x ∈ p.spans r.2, s = ⟨r.1 + x.1, r.1 + x.2⟩ := by
  simp [findSpans, List.mem_flatMap, eq_comm]

/-- What is found in the slots takes digits of one run. -/
theorem exists_run_of_mem_findSpans (h : s ∈ findSpans p slots) :
    s.start < s.stop ∧ ∃ r ∈ runs slots, r.1 ≤ s.start ∧ s.stop ≤ r.1 + r.2.length := by
  obtain ⟨r, hr, x, hx, rfl⟩ := mem_findSpans.mp h
  obtain ⟨hlt, hle, -⟩ := Pattern.mem_spans hx
  exact ⟨Nat.add_lt_add_left hlt _, r, hr, Nat.le_add_right _ _, Nat.add_le_add_left hle _⟩

/-- Each place of a span has a digit, which is unused. -/
theorem unused_of_mem_findSpans (h : s ∈ findSpans p slots) {i : Nat} (hi : s.Covers i) :
    ∃ d, slots[i]? = some (some d) := by
  obtain ⟨-, r, hr, hstart, hstop⟩ := exists_run_of_mem_findSpans h
  exact unused_of_mem_runs hr (Nat.le_trans hstart hi.1) (Nat.lt_of_lt_of_le hi.2 hstop)

/-- A pattern is found from left to right. -/
theorem findSpans_ordered (p : Pattern) (slots : Slots) :
    (findSpans p slots).Pairwise fun s t => s.stop ≤ t.start := by
  rw [findSpans, List.pairwise_flatMap]
  constructor
  · intro r _
    exact List.pairwise_map.mpr ((Pattern.spans_ordered p r.2).imp fun h => Nat.add_le_add_left h _)
  · refine (runs_apart slots).imp fun {r q} hrq s hs t ht => ?_
    obtain ⟨x, hx, rfl⟩ := List.mem_map.mp hs
    obtain ⟨y, hy, rfl⟩ := List.mem_map.mp ht
    have hx := (Pattern.mem_spans hx).2.1
    simp only
    omega

end Find

end BoostFeed.Numerology
