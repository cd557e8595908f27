import Mathlib.Data.List.Pairwise
import BoostFeed.Proofs.Numerology.Literals

/-! Rules that look for digits, in any order. What such a rule finds is decided by the places where its digits stand
unused. So rules whose digits nowhere share a place do not disturb each other, and their order is not seen. -/

namespace BoostFeed.Numerology

open BoostFeed.Number (Digit)

section Ordered

variable {α : Type} {span : α → Span} {l l' : List α}

theorem nodup_of_ordered (hl : l.Pairwise fun a b => (span a).stop ≤ (span b).start)
    (hlt : ∀ a ∈ l, (span a).start < (span a).stop) : l.Nodup := by
  refine hl.imp_of_mem fun {a b} ha _ hle hab => ?_
  subst hab
  have hpos := hlt a ha
  omega

/-- What stands from left to right without overlap is determined by its members. -/
theorem eq_of_ordered (hl : l.Pairwise fun a b => (span a).stop ≤ (span b).start)
    (hl' : l'.Pairwise fun a b => (span a).stop ≤ (span b).start)
    (hlt : ∀ a ∈ l, (span a).start < (span a).stop) (hmem : ∀ a, a ∈ l ↔ a ∈ l') : l = l' := by
  have hlt' : ∀ a ∈ l', (span a).start < (span a).stop := fun a ha => hlt a ((hmem a).mpr ha)
  have hperm : l.Perm l' :=
    (List.perm_ext_iff_of_nodup (nodup_of_ordered hl hlt) (nodup_of_ordered hl' hlt')).mpr hmem
  refine hperm.eq_of_pairwise (fun a b ha hb hab hba => ?_) hl hl'
  have hposa := hlt a ha
  have hposb := hlt' b hb
  omega

end Ordered

section Search

variable {slots slots' : Slots} {ds : List Digit} {s t : Span}

theorem findSpans_apart {p : Pattern} (hs : s ∈ findSpans p slots) (ht : t ∈ findSpans p slots) (hne : s ≠ t) :
    s.Apart t := by
  have hsymm : Std.Symm Span.Apart := ⟨fun _ _ => Or.symm⟩
  have hapart : (findSpans p slots).Pairwise Span.Apart := (findSpans_ordered p slots).imp .inl
  exact hapart.forall hs ht hne

/-- A row of digits is found where it stands unless what is found further left reaches there. -/
theorem mem_findSpans_literal_iff (hds : ds ≠ []) : s ∈ findSpans (.literal ds) slots ↔
    (Stands slots s.start ds ∧ s.stop = s.start + ds.length) ∧
      ∀ t ∈ findSpans (.literal ds) slots, t.start < s.start → t.stop ≤ s.start := by
  have hpos : 0 < ds.length := List.length_pos_iff.mpr hds
  constructor
  · intro hs
    have hstands := stands_of_mem_findSpans hs
    refine ⟨hstands, fun t ht hlt => ?_⟩
    have hne : t ≠ s := by
      rintro rfl
      exact Nat.lt_irrefl _ hlt
    rcases findSpans_apart ht hs hne with hleft | hright
    · exact hleft
    · have hstop := hstands.2
      omega
  · rintro ⟨⟨hstands, hstop⟩, hfirst⟩
    obtain ⟨t, ht, hle, hreach⟩ := exists_covers_of_stands hds hstands
    have hstart : t.start = s.start := by
      by_contra hne
      have hleft := hfirst t ht (by omega)
      omega
    have htstop := (stands_of_mem_findSpans ht).2
    have hts : t = s := by
      rw [← hstart, ← htstop] at hstop
      cases s
      cases t
      simp_all
    exact hts ▸ ht

/-- The places where a row of digits stands decide what is found. -/
theorem findSpans_congr (hds : ds ≠ []) (h : ∀ i, Stands slots i ds ↔ Stands slots' i ds) :
    findSpans (.literal ds) slots = findSpans (.literal ds) slots' := by
  -- From left to right: whether a place is found hangs on those found before it.
  have hmem : ∀ n, ∀ s : Span, s.start = n →
      (s ∈ findSpans (.literal ds) slots ↔ s ∈ findSpans (.literal ds) slots') := by
    intro n
    induction n using Nat.strong_induction_on with
    | h n ih =>
      rintro s rfl
      rw [mem_findSpans_literal_iff hds, mem_findSpans_literal_iff hds, h]
      refine and_congr_right fun _ => forall_congr' fun t => ?_
      by_cases hlt : t.start < s.start
      · rw [ih t.start hlt t rfl]
      · simp [hlt]
  have hlt : ∀ s ∈ findSpans (.literal ds) slots, s.start < s.stop := fun s hs => (exists_run_of_mem_findSpans hs).1
  exact eq_of_ordered (findSpans_ordered _ slots) (findSpans_ordered _ slots') hlt fun s => hmem s.start s rfl

end Search

section Rules

variable {r q : Rule} {rules rules' : List Rule} {slots slots' : Slots} {ds es : List Digit} {amount : UInt64}

theorem Rule.LooksFor.unique (h : r.LooksFor ds) (h' : r.LooksFor es) : ds = es := by
  obtain ⟨-, text, hpredicate⟩ := h.predicate_eq
  obtain ⟨-, text', hpredicate'⟩ := h'.predicate_eq
  exact Pattern.literal_injective (Predicate.pattern.inj (hpredicate.symm.trans hpredicate')).2

theorem Rule.LooksFor.compares_eq (h : r.LooksFor ds) : r.compares amount = false := by
  obtain ⟨-, text, hpredicate⟩ := h.predicate_eq
  rw [compares, hpredicate]

theorem Rule.LooksFor.hitsIn_eq (h : r.LooksFor ds) (slots : Slots) :
    r.hitsIn slots = (findSpans (.literal ds) slots).map (⟨r, ·⟩) := by
  obtain ⟨-, text, hpredicate⟩ := h.predicate_eq
  rw [hitsIn, hpredicate]

theorem Rule.LooksFor.hitsIn_congr (hr : r.LooksFor ds) (h : ∀ i, Stands slots i ds ↔ Stands slots' i ds) :
    r.hitsIn slots = r.hitsIn slots' := by
  rw [hr.hitsIn_eq, hr.hitsIn_eq, findSpans_congr hr.predicate_eq.1 h]

/-- Hits that lie apart from every place of a row of digits leave it where it stands. -/
theorem stands_leave_iff {found : List PatternHit}
    (h : ∀ g ∈ found, ∀ i, Stands slots i ds → g.span.Apart ⟨i, i + ds.length⟩) (i : Nat) :
    Stands (leave found slots) i ds ↔ Stands slots i ds := by
  constructor
  · intro hstands
    exact stands_iff.mpr fun k hk => (leave_eq_some_iff.mp (stands_iff.mp hstands k hk)).1
  · intro hstands
    refine stands_iff.mpr fun k hk => leave_eq_some_iff.mpr ⟨stands_iff.mp hstands k hk, fun g hg hcovers => ?_⟩
    obtain ⟨hstart, hstop⟩ := hcovers
    rcases h g hg i hstands with (hleft : g.span.stop ≤ i) | (hright : i + ds.length ≤ g.span.start)
    · omega
    · omega

/-- Nowhere in these slots the row that one rule looks for shares a place with the row of the other. -/
def Rule.ApartIn (slots : Slots) (r q : Rule) : Prop :=
  ∀ ds es, r.LooksFor ds → q.LooksFor es → ∀ i j, Stands slots i ds → Stands slots j es →
    Span.Apart ⟨i, i + ds.length⟩ ⟨j, j + es.length⟩

theorem Rule.ApartIn.symm (h : r.ApartIn slots q) : q.ApartIn slots r :=
  fun ds es hq hr i j hi hj => (h es ds hr hq j i hj hi).symm

/-- What a rule uses does not matter to a rule that lies apart from it. -/
theorem Rule.ApartIn.stands_iff (h : r.ApartIn slots q) (hr : r.LooksFor ds) (hq : q.LooksFor es) (i : Nat) :
    Stands (leave (r.hitsIn slots) slots) i es ↔ Stands slots i es := by
  refine stands_leave_iff (fun g hg j hj => ?_) i
  rw [hr.hitsIn_eq] at hg
  obtain ⟨s, hs, rfl⟩ := List.mem_map.mp hg
  obtain ⟨hstands, hstop⟩ := stands_of_mem_findSpans hs
  have hapart := h ds es hr hq s.start j hstands hj
  rwa [← hstop] at hapart

/-- Rules that lie apart find what each of them finds alone. -/
theorem patternHits_of_apart (hrules : ∀ r ∈ rules, ∃ ds, r.LooksFor ds) (hapart : rules.Pairwise (Rule.ApartIn slots)) :
    patternHits rules slots = rules.flatMap (·.hitsIn slots) := by
  induction rules generalizing slots with
  | nil => rfl
  | cons r rs ih =>
    obtain ⟨ds, hr⟩ := hrules r List.mem_cons_self
    obtain ⟨hfirst, hrest⟩ := List.pairwise_cons.mp hapart
    have hlooks : ∀ q ∈ rs, ∃ es, q.LooksFor es := fun q hq => hrules q (List.mem_cons_of_mem r hq)
    have hleft : rs.Pairwise (Rule.ApartIn (leave (r.hitsIn slots) slots)) := by
      refine hrest.imp_of_mem fun {p q} hp hq hpq ds' es hp' hq' i j hi hj => ?_
      exact hpq ds' es hp' hq' i j (((hfirst p hp).stands_iff hr hp' i).mp hi) (((hfirst q hq).stands_iff hr hq' j).mp hj)
    have halone : ∀ q ∈ rs, q.hitsIn (leave (r.hitsIn slots) slots) = q.hitsIn slots := by
      intro q hq
      obtain ⟨es, hes⟩ := hlooks q hq
      exact hes.hitsIn_congr ((hfirst q hq).stands_iff hr hes)
    rw [patternHits_cons, ih hlooks hleft, List.flatMap_cons, List.flatMap_congr halone]

/-- The row that one rule looks for nowhere shares a digit of the amount with the row of the other. -/
def Rule.ApartAt (amount : UInt64) (r q : Rule) : Prop :=
  ∀ ds es, r.LooksFor ds → q.LooksFor es → ∀ i j, ds <+: (Number.digits amount.toNat).drop i →
    es <+: (Number.digits amount.toNat).drop j → Span.Apart ⟨i, i + ds.length⟩ ⟨j, j + es.length⟩

theorem Rule.apartIn_slotsOf : r.ApartIn (slotsOf amount) q ↔ r.ApartAt amount q := by
  simp only [ApartIn, ApartAt, slotsOf, stands_map_some]

theorem hits_of_looksFor (hrules : ∀ r ∈ rules, ∃ ds, r.LooksFor ds) :
    hits rules amount = (placedHits rules amount).map PatternHit.rule := by
  have hcompares : ∀ r ∈ rules, r.compares amount = false := by
    intro r hr
    obtain ⟨ds, hds⟩ := hrules r hr
    exact hds.compares_eq
  have hnone : rules.filter (·.compares amount) = [] :=
    List.filter_eq_nil_iff.mpr fun r hr => by simp [hcompares r hr]
  rw [hits_eq_of_no_equality fun r hr _ => hcompares r hr, hnone, List.nil_append]

theorem placedHits_of_perm (hperm : rules.Perm rules') (hrules : ∀ r ∈ rules, ∃ ds, r.LooksFor ds)
    (hapart : rules.Pairwise (Rule.ApartIn (slotsOf amount))) :
    placedHits rules amount = placedHits rules' amount := by
  have hrules' : ∀ r ∈ rules', ∃ ds, r.LooksFor ds := fun r hr => hrules r (hperm.mem_iff.mpr hr)
  have hapart' : rules'.Pairwise (Rule.ApartIn (slotsOf amount)) := hperm.pairwise hapart fun h => h.symm
  have hfound : (patternHits rules (slotsOf amount)).Perm (patternHits rules' (slotsOf amount)) := by
    rw [patternHits_of_apart hrules hapart, patternHits_of_apart hrules' hapart']
    exact hperm.flatMap_right _
  have hplaced : (placedHits rules amount).Perm (placedHits rules' amount) :=
    (placedHits_perm rules amount).trans (hfound.trans (placedHits_perm rules' amount).symm)
  have hlt : ∀ h ∈ placedHits rules amount, h.span.start < h.span.stop :=
    fun h hh => start_lt_stop_of_mem_patternHits ((placedHits_perm rules amount).mem_iff.mp hh)
  exact eq_of_ordered (placedHits_ordered rules amount) (placedHits_ordered rules' amount) hlt fun _ => hplaced.mem_iff

/-- Position decides, not the order of the rules: where no two rules look for rows of digits that overlap in the amount,
every order of the rules decorates it alike. -/
theorem annotate_of_perm (hrules : ∀ r ∈ rules, ∃ ds, r.LooksFor ds) (hapart : rules.Pairwise (Rule.ApartAt amount))
    (hperm : rules.Perm rules') : annotate rules amount = annotate rules' amount := by
  have hrules' : ∀ r ∈ rules', ∃ ds, r.LooksFor ds := fun r hr => hrules r (hperm.mem_iff.mpr hr)
  have hplaced : placedHits rules amount = placedHits rules' amount :=
    placedHits_of_perm hperm hrules (hapart.imp Rule.apartIn_slotsOf.mpr)
  rw [annotate, annotate, hits_of_looksFor hrules, hits_of_looksFor hrules', hplaced]

theorem Rule.apartAt_of_lt (hr : r.LooksFor ds) (hq : q.LooksFor es)
    (h : ∀ i < (Number.digits amount.toNat).length, ∀ j < (Number.digits amount.toNat).length,
      ds <+: (Number.digits amount.toNat).drop i → es <+: (Number.digits amount.toNat).drop j →
      i + ds.length ≤ j ∨ j + es.length ≤ i) : r.ApartAt amount q := by
  have hinside {ds : List Digit} (hds : ds ≠ []) {i : Nat} (hi : ds <+: (Number.digits amount.toNat).drop i) :
      i < (Number.digits amount.toNat).length := by
    by_contra hle
    rw [List.drop_eq_nil_iff.mpr (by omega), List.prefix_nil] at hi
    exact hds hi
  intro ds' es' hds' hes' i j hi hj
  rw [hds'.unique hr] at hi ⊢
  rw [hes'.unique hq] at hj ⊢
  exact h i (hinside hr.predicate_eq.1 hi) j (hinside hq.predicate_eq.1 hj) hi hj

/-- In 69420111 three rows are found, 11 only once in 111, whatever the order of their rules. -/
theorem annotate_three_rows_reversed :
    let rules := [BuiltIn.contains "Dice Donation" "🎲" "11", BuiltIn.contains "Stoner Donation" "✌👽💨" "420",
      BuiltIn.contains "Swasslenuff Donation" "💋" "69"]
    ((∀ r ∈ rules, ∃ ds, r.LooksFor ds) ∧ rules.Pairwise (Rule.ApartAt 69420111) ∧ rules.Perm rules.reverse) ∧
    annotate rules 69420111 = annotate rules.reverse 69420111 ∧
    annotate rules.reverse 69420111 = ⟨"💋✌👽💨🎲", "Swasslenuff Donation, Stoner Donation, Dice Donation", []⟩ := by
  intro rules
  have hdice : (BuiltIn.contains "Dice Donation" "🎲" "11").LooksFor [1, 1] :=
    BuiltIn.contains_looksFor _ _ (by decide) rfl
  have hstoner : (BuiltIn.contains "Stoner Donation" "✌👽💨" "420").LooksFor [4, 2, 0] :=
    BuiltIn.contains_looksFor _ _ (by decide) rfl
  have hnice : (BuiltIn.contains "Swasslenuff Donation" "💋" "69").LooksFor [6, 9] :=
    BuiltIn.contains_looksFor _ _ (by decide) rfl
  have hrules : ∀ r ∈ rules, ∃ ds, r.LooksFor ds := by
    simp only [rules, List.forall_mem_cons]
    exact ⟨⟨_, hdice⟩, ⟨_, hstoner⟩, ⟨_, hnice⟩, nofun⟩
  have hapart : rules.Pairwise (Rule.ApartAt 69420111) := by
    simp only [rules, List.pairwise_cons, List.forall_mem_cons]
    refine ⟨⟨?_, ?_, nofun⟩, ⟨?_, nofun⟩, nofun, .nil⟩
    · exact Rule.apartAt_of_lt hdice hstoner (by decide)
    · exact Rule.apartAt_of_lt hdice hnice (by decide)
    · exact Rule.apartAt_of_lt hstoner hnice (by decide)
  have hperm : rules.Perm rules.reverse := rules.reverse_perm.symm
  have hrules' : ∀ r ∈ rules.reverse, ∃ ds, r.LooksFor ds := fun r hr => hrules r (hperm.mem_iff.mpr hr)
  have hplaced : placedHits rules.reverse 69420111 = patternHits rules.reverse (slotsOf 69420111) :=
    List.mergeSort_of_pairwise (by decide)
  refine ⟨⟨hrules, hapart, hperm⟩, annotate_of_perm hrules hapart hperm, ?_⟩
  rw [annotate, hits_of_looksFor hrules', hplaced]
  decide +kernel

end Rules

end BoostFeed.Numerology
