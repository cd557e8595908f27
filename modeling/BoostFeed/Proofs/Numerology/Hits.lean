import BoostFeed.Proofs.Numerology.Slots

/-! What rules find in an amount. Each rule searches the digits that the rules before it have left, so its hits depend
on these rules alone; no digit is used twice, by one rule or by several, and the hits can be put in order of their
places. -/

namespace BoostFeed.Numerology

open BoostFeed.Number (Digit)

/-- Where the pattern of a rule is found in the slots. A comparison is found nowhere. -/
def Rule.hitsIn (r : Rule) (slots : Slots) : List PatternHit :=
  match r.predicate with
  | .compare _ _ => []
  | .pattern _ p => (findSpans p slots).map (⟨r, ·⟩)

/-- The slots once the digits of hits are used. -/
def leave (found : List PatternHit) (slots : Slots) : Slots := (found.map PatternHit.span).foldl use slots

/-- The slots of an amount that rules leave. -/
def slotsAfter (rules : List Rule) (amount : UInt64) : Slots :=
  leave (patternHits rules (slotsOf amount)) (slotsOf amount)

/-- The pattern hits of an amount from left to right. -/
def placedHits (rules : List Rule) (amount : UInt64) : List PatternHit :=
  (patternHits rules (slotsOf amount)).mergeSort fun a b => a.span.start ≤ b.span.start

section Leaving

variable {found : List PatternHit} {slots : Slots}

theorem leave_append (found later : List PatternHit) (slots : Slots) :
    leave (found ++ later) slots = leave later (leave found slots) := by
  rw [leave, List.map_append, List.foldl_append]
  rfl

theorem getElem?_leave (found : List PatternHit) (slots : Slots) (i : Nat) :
    (leave found slots)[i]? = slots[i]?.map fun slot => if ∃ h ∈ found, h.span.Covers i then none else slot := by
  rw [leave, getElem?_foldl_use]
  simp only [List.mem_map, exists_exists_and_eq_and]

/-- A digit that is left has been there, and no hit has used it. -/
theorem leave_eq_some_iff {i : Nat} {d : Digit} :
    (leave found slots)[i]? = some (some d) ↔ slots[i]? = some (some d) ∧ ∀ h ∈ found, ¬ h.span.Covers i := by
  rw [getElem?_leave]
  by_cases hused : ∃ h ∈ found, h.span.Covers i
  · have hnot : ¬ ∀ h ∈ found, ¬ h.span.Covers i := by simpa using hused
    simp [hused, hnot]
  · have hfree : ∀ h ∈ found, ¬ h.span.Covers i := by simpa using hused
    simp only [hused, if_false, Option.map_id']
    exact ⟨fun h => ⟨h, hfree⟩, And.left⟩

end Leaving

section Rules

variable {r : Rule} {rs pre post : List Rule} {slots : Slots} {h : PatternHit}

theorem mem_hitsIn : h ∈ r.hitsIn slots ↔
    h.rule = r ∧ ∃ text p, r.predicate = .pattern text p ∧ h.span ∈ findSpans p slots := by
  unfold Rule.hitsIn
  cases hr : r.predicate with
  | compare c bound => simp
  | pattern text p =>
    simp only [List.mem_map, Predicate.pattern.injEq]
    constructor
    · rintro ⟨s, hs, rfl⟩
      exact ⟨rfl, text, p, ⟨rfl, rfl⟩, hs⟩
    · rintro ⟨rfl, _, _, ⟨rfl, rfl⟩, hs⟩
      exact ⟨h.span, hs, rfl⟩

theorem patternHits_cons (r : Rule) (rs : List Rule) (slots : Slots) :
    patternHits (r :: rs) slots = r.hitsIn slots ++ patternHits rs (leave (r.hitsIn slots) slots) := by
  rw [patternHits, Rule.hitsIn]
  cases r.predicate with
  | compare c bound => rfl
  | pattern text p => simp [leave, Function.comp_def]

/-- Rules find in what the rules before them have left. -/
theorem patternHits_append (pre rs : List Rule) (slots : Slots) :
    patternHits (pre ++ rs) slots =
      patternHits pre slots ++ patternHits rs (leave (patternHits pre slots) slots) := by
  induction pre generalizing slots with
  | nil => rfl
  | cons r pre ih =>
    rw [List.cons_append, patternHits_cons, patternHits_cons, ih, List.append_assoc, leave_append]

theorem patternHits_split (pre : List Rule) (r : Rule) (post : List Rule) (amount : UInt64) :
    patternHits (pre ++ r :: post) (slotsOf amount) =
      patternHits pre (slotsOf amount) ++ r.hitsIn (slotsAfter pre amount) ++
        patternHits post (slotsAfter (pre ++ [r]) amount) := by
  have hown : patternHits (pre ++ [r]) (slotsOf amount) =
      patternHits pre (slotsOf amount) ++ r.hitsIn (slotsAfter pre amount) := by
    rw [patternHits_append, patternHits_cons, patternHits, List.append_nil]
    rfl
  rw [List.append_cons, patternHits_append, ← slotsAfter, hown]

/-- A hit uses digits that were there to be used. -/
theorem unused_of_mem_patternHits (hh : h ∈ patternHits rs slots) {i : Nat} (hi : h.span.Covers i) :
    ∃ d, slots[i]? = some (some d) := by
  induction rs generalizing slots with
  | nil => cases hh
  | cons r rs ih =>
    rw [patternHits_cons, List.mem_append] at hh
    rcases hh with hown | hlater
    · obtain ⟨-, text, p, -, hspan⟩ := mem_hitsIn.mp hown
      exact unused_of_mem_findSpans hspan hi
    · obtain ⟨d, hd⟩ := ih hlater
      exact ⟨d, (leave_eq_some_iff.mp hd).1⟩

theorem start_lt_stop_of_mem_patternHits (hh : h ∈ patternHits rs slots) : h.span.start < h.span.stop := by
  induction rs generalizing slots with
  | nil => cases hh
  | cons r rs ih =>
    rw [patternHits_cons, List.mem_append] at hh
    rcases hh with hown | hlater
    · obtain ⟨-, text, p, -, hspan⟩ := mem_hitsIn.mp hown
      exact (exists_run_of_mem_findSpans hspan).1
    · exact ih hlater

theorem stop_le_of_mem_patternHits (hh : h ∈ patternHits rs slots) : h.span.stop ≤ slots.length := by
  have hlt := start_lt_stop_of_mem_patternHits hh
  obtain ⟨d, hd⟩ := unused_of_mem_patternHits hh (i := h.span.stop - 1) ⟨by omega, by omega⟩
  have hlast := (List.getElem?_eq_some_iff.mp hd).1
  omega

theorem Span.apart_of_not_covers {s t : Span} (hs : s.start < s.stop) (ht : t.start < t.stop)
    (h : ∀ i, t.Covers i → ¬ s.Covers i) : s.Apart t := by
  by_contra hnot
  simp only [Span.Apart, not_or, Nat.not_le] at hnot
  refine h (max s.start t.start) ⟨?_, ?_⟩ ⟨?_, ?_⟩ <;> omega

/-- No digit is used twice. -/
theorem patternHits_apart (rs : List Rule) (slots : Slots) :
    (patternHits rs slots).Pairwise fun g h => g.span.Apart h.span := by
  induction rs generalizing slots with
  | nil => exact .nil
  | cons r rs ih =>
    rw [patternHits_cons, List.pairwise_append]
    refine ⟨?own, ih _, fun g hg h hh => ?across⟩
    case own =>
      unfold Rule.hitsIn
      cases r.predicate with
      | compare c bound => exact .nil
      | pattern text p => exact List.pairwise_map.mpr ((findSpans_ordered p slots).imp .inl)
    case across =>
      have hown : g ∈ patternHits (r :: rs) slots := by
        rw [patternHits_cons]
        exact List.mem_append_left _ hg
      refine Span.apart_of_not_covers (start_lt_stop_of_mem_patternHits hown)
        (start_lt_stop_of_mem_patternHits hh) fun i hi => ?_
      obtain ⟨d, hd⟩ := unused_of_mem_patternHits hh hi
      exact (leave_eq_some_iff.mp hd).2 g hg

end Rules

section Placed

variable {rules : List Rule} {amount : UInt64}

theorem placedHits_perm (rules : List Rule) (amount : UInt64) :
    (placedHits rules amount).Perm (patternHits rules (slotsOf amount)) :=
  List.mergeSort_perm _ _

/-- From left to right each hit ends before the next one starts. -/
theorem placedHits_ordered (rules : List Rule) (amount : UInt64) :
    (placedHits rules amount).Pairwise fun g h => g.span.stop ≤ h.span.start := by
  have hsorted : (placedHits rules amount).Pairwise fun g h => g.span.start ≤ h.span.start := by
    have h := @List.pairwise_mergeSort _ (fun a b : PatternHit => decide (a.span.start ≤ b.span.start))
      (fun a b c hab hbc => by simpa using Nat.le_trans (by simpa using hab) (by simpa using hbc))
      (fun a b => by simpa using Nat.le_total a.span.start b.span.start) (patternHits rules (slotsOf amount))
    exact h.imp fun hab => by simpa using hab
  have hapart : (placedHits rules amount).Pairwise fun g h => g.span.Apart h.span :=
    (placedHits_perm rules amount).symm.pairwise (patternHits_apart rules _) Or.symm
  refine (hsorted.and hapart).imp_of_mem fun {g h} hg hh hgh => ?_
  have hstop := start_lt_stop_of_mem_patternHits ((placedHits_perm rules amount).mem_iff.mp hh)
  rcases hgh with ⟨hle, hbefore | hbehind⟩
  · exact hbefore
  · omega

/-- Without a matching equality the comparisons that hold come first, in rule order, and then the pattern hits. -/
theorem hits_eq_of_no_equality (hequal : ∀ r ∈ rules, r.isEquality = true → r.compares amount = false) :
    hits rules amount = rules.filter (·.compares amount) ++ (placedHits rules amount).map PatternHit.rule := by
  have hnone : (rules.filter fun r => r.isEquality && r.compares amount) = [] := by
    rw [List.filter_eq_nil_iff]
    intro r hr hmatch
    obtain ⟨hequality, hcompares⟩ := Bool.and_eq_true_iff.mp hmatch
    rw [hequal r hr hequality] at hcompares
    cases hcompares
  simp [hits, hnone, placedHits]

end Placed

/-- What a rule finds behind the rules before it. -/
structure OwnHits (pre : List Rule) (r : Rule) (amount : UInt64) (own : List PatternHit) : Prop where
  rule : ∀ h ∈ own, h.rule = r
  /-- Each hit lies in a stretch of digits, and none of these has been used by a rule before. -/
  untouched : ∀ h ∈ own, ∃ run ∈ runs (slotsAfter pre amount), run.1 ≤ h.span.start ∧
    h.span.stop ≤ run.1 + run.2.length ∧
    ∀ i, run.1 ≤ i → i < run.1 + run.2.length → ∀ g ∈ patternHits pre (slotsOf amount), ¬ g.span.Covers i

/-- What is collected for an amount that no equality matches. -/
structure InPlace (rules : List Rule) (amount : UInt64) (found : List PatternHit) : Prop where
  /-- The comparisons that hold come first, in rule order, then the pattern hits from left to right. -/
  ordered : ∃ placed : List PatternHit, placed.Perm found ∧
    (placed.Pairwise fun g h => g.span.start < h.span.start) ∧
    hits rules amount = rules.filter (·.compares amount) ++ placed.map PatternHit.rule
  nonempty : ∀ h ∈ found, h.span.start < h.span.stop
  /-- No replacement falls outside the digits. -/
  inside : ∀ h ∈ found, h.span.stop ≤ (BoostFeed.Number.digits amount.toNat).length
  apart : found.Pairwise fun g h => g.span.Apart h.span
  /-- The hits of a rule are told from the digits that the rules before it leave, whatever rules follow. -/
  own : ∀ pre r post, rules = pre ++ r :: post →
    found = patternHits pre (slotsOf amount) ++ r.hitsIn (slotsAfter pre amount) ++
      patternHits post (slotsAfter (pre ++ [r]) amount) ∧
    OwnHits pre r amount (r.hitsIn (slotsAfter pre amount))
  /-- Rules leave the digits where none of their hits has been, in as many places as before. -/
  left : ∀ pre post, rules = pre ++ post → ∀ i,
    (slotsAfter pre amount)[i]? = (BoostFeed.Number.digits amount.toNat)[i]?.map fun d =>
      if ∃ h ∈ patternHits pre (slotsOf amount), h.span.Covers i then none else some d

theorem getElem?_slotsAfter (rules : List Rule) (amount : UInt64) (i : Nat) :
    (slotsAfter rules amount)[i]? = (BoostFeed.Number.digits amount.toNat)[i]?.map fun d =>
      if ∃ h ∈ patternHits rules (slotsOf amount), h.span.Covers i then none else some d := by
  rw [slotsAfter, getElem?_leave, slotsOf, List.getElem?_map, Option.map_map]
  rfl

theorem ownHits (pre : List Rule) (r : Rule) (amount : UInt64) :
    OwnHits pre r amount (r.hitsIn (slotsAfter pre amount)) where
  rule h hh := (mem_hitsIn.mp hh).1
  untouched h hh := by
    obtain ⟨-, text, p, -, hspan⟩ := mem_hitsIn.mp hh
    obtain ⟨-, run, hrun, hstart, hstop⟩ := exists_run_of_mem_findSpans hspan
    refine ⟨run, hrun, hstart, hstop, fun i hle hlt => ?_⟩
    obtain ⟨d, hd⟩ := unused_of_mem_runs hrun hle hlt
    exact (leave_eq_some_iff.mp hd).2

/-- Pattern hits never overlap, lie inside the digits and stand in order of their places behind the comparisons. -/
theorem hits_in_place (rules : List Rule) (amount : UInt64)
    (hequal : ∀ r ∈ rules, r.isEquality = true → r.compares amount = false) :
    InPlace rules amount (patternHits rules (slotsOf amount)) where
  ordered := by
    refine ⟨placedHits rules amount, placedHits_perm rules amount, ?_, hits_eq_of_no_equality hequal⟩
    refine (placedHits_ordered rules amount).imp_of_mem fun {g h} hg _ hgh => ?_
    have hlt := start_lt_stop_of_mem_patternHits ((placedHits_perm rules amount).mem_iff.mp hg)
    omega
  nonempty _ := start_lt_stop_of_mem_patternHits
  inside h hh := by simpa [slotsOf] using stop_le_of_mem_patternHits hh
  apart := patternHits_apart rules _
  own := by
    rintro pre r post rfl
    exact ⟨patternHits_split pre r post amount, ownHits pre r amount⟩
  left := by
    rintro pre post rfl i
    exact getElem?_slotsAfter pre amount i

/-- Of 1234111 a rule takes 1234, so that 123 is not found in it, and 11 is found once in the rest. -/
theorem hits_of_countup_in_place :
    let rules : List Rule := [BuiltIn.contains "Countup Donation x 2" "🧛🧛" "1234",
      BuiltIn.contains "Countup Donation" "🧛" "123", BuiltIn.contains "Dice Donation" "🎲" "11",
      BuiltIn.compares "Lit donation 10k" "🔥" .greaterOrEqual 10000, BuiltIn.equals "Bowler Donation" "🎳" 10]
    (∀ r ∈ rules, r.isEquality = true → r.compares 1234111 = false) ∧
    InPlace rules 1234111 (patternHits rules (slotsOf 1234111)) ∧
    (patternHits rules (slotsOf 1234111)).map PatternHit.span = [⟨0, 4⟩, ⟨4, 6⟩] ∧
    (hits rules 1234111).map Rule.emoji = ["🔥", "🧛🧛", "🎲"] := by
  intro rules
  have hequal : ∀ r ∈ rules, r.isEquality = true → r.compares 1234111 = false := by decide
  have hplaced : placedHits rules 1234111 = patternHits rules (slotsOf 1234111) :=
    List.mergeSort_of_pairwise (by decide)
  refine ⟨hequal, hits_in_place rules 1234111 hequal, rfl, ?_⟩
  rw [hits_eq_of_no_equality hequal, hplaced]
  rfl

end BoostFeed.Numerology
