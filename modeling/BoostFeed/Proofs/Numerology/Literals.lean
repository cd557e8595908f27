import Mathlib.Data.List.Infix
import Mathlib.Data.List.TakeWhile
import BoostFeed.Proofs.Json.Records
import BoostFeed.Proofs.Numerology.Hits
import BoostFeed.Proofs.Text.Digits

/-! Rules that look for a row of digits. Such a rule finds its digits only where they stand in the amount, and it misses
them nowhere: each place where they stand has a digit that the rule itself or a rule before it uses. -/

namespace BoostFeed

namespace Text

/-- There is nothing to trim from digits. -/
theorem trimmed_of_isDigit {cs : List Char} (h : ∀ c ∈ cs, c.isDigit = true) : trimmed cs = cs := by
  have hkeep {cs : List Char} (h : ∀ c ∈ cs, c.isDigit = true) : cs.dropWhile isBlank = cs :=
    List.dropWhile_eq_self_iff.mpr fun hpos => by simp [isBlank_of_isDigit (h _ (List.getElem_mem hpos))]
  have hback : ∀ c ∈ cs.reverse, c.isDigit = true := fun c hc => h c (List.mem_reverse.mp hc)
  rw [trimmed, hkeep h, hkeep hback, List.reverse_reverse]

end Text

namespace Numerology

open BoostFeed.Number (Digit)

section Slots

variable {slots : Slots} {ds w : List Digit} {s : Span} {i k : Nat}

theorem Stands.drop (h : Stands slots i w) (k : Nat) : Stands slots (i + k) (w.drop k) := by
  rw [Stands, List.map_drop, ← List.drop_drop]
  exact List.IsPrefix.drop h k

/-- A row of digits is found only where it stands unused. -/
theorem stands_of_mem_findSpans (h : s ∈ findSpans (.literal ds) slots) :
    Stands slots s.start ds ∧ s.stop = s.start + ds.length := by
  obtain ⟨r, hr, x, hx, rfl⟩ := mem_findSpans.mp h
  obtain ⟨hds, hstop⟩ := Pattern.prefix_of_mem_spans_literal hx
  obtain ⟨-, hrun⟩ := stands_of_mem_runs hr
  refine ⟨(hds.map some).trans (hrun.drop x.1), ?_⟩
  simp only [hstop, Nat.add_assoc]

/-- Where a row of digits stands unused, its first digit is used by what is found. -/
theorem exists_covers_of_stands (hds : ds ≠ []) (h : Stands slots i ds) :
    ∃ s ∈ findSpans (.literal ds) slots, s.Covers i := by
  obtain ⟨r, hr, hle, hprefix⟩ := exists_run hds h
  obtain ⟨x, hx, hstart, hstop⟩ := Pattern.exists_mem_spans_literal hds hprefix
  refine ⟨_, mem_findSpans.mpr ⟨r, hr, x, hx, rfl⟩, ?_⟩
  simp only [Span.Covers]
  omega

end Slots

section Amounts

variable {rules : List Rule} {amount : UInt64} {ds : List Digit} {i : Nat}

theorem slotsAfter_eq_some_iff {d : Digit} : (slotsAfter rules amount)[i]? = some (some d) ↔
    (Number.digits amount.toNat)[i]? = some d ∧
      ∀ h ∈ patternHits rules (slotsOf amount), ¬ h.span.Covers i := by
  rw [slotsAfter, leave_eq_some_iff, slotsOf, List.getElem?_map]
  simp

/-- Digits stand unused where they stand in the amount and no hit has used one of them. -/
theorem stands_slotsAfter : Stands (slotsAfter rules amount) i ds ↔
    ds <+: (Number.digits amount.toNat).drop i ∧
      ∀ k < ds.length, ∀ h ∈ patternHits rules (slotsOf amount), ¬ h.span.Covers (i + k) := by
  simp only [stands_iff, slotsAfter_eq_some_iff, List.prefix_iff_getElem?, List.getElem?_drop]
  exact ⟨fun h => ⟨fun k hk => (h k hk).1, fun k hk => (h k hk).2⟩, fun h k hk => ⟨h.1 k hk, h.2 k hk⟩⟩

end Amounts

/-- An entry that looks for a row of digits: it has no pattern of its own, its sign is `=~`, its amount the row. -/
structure Entry.LooksFor (e : Entry) (ds : List Digit) : Prop where
  plain : e.regex.filter (· ≠ "") = none
  sign : e.equality.map Text.trim = some "=~"
  row : (e.amount.bind AmountEntry.digits?).bind Number.digitsOfText? = some ds

/-- A rule that is built to look for a row of digits. -/
def Rule.LooksFor (r : Rule) (ds : List Digit) : Prop := ∃ e : Entry, e.LooksFor ds ∧ Rule.ofEntry e = .ok r

section Building

variable {ds : List Digit} {r : Rule}

theorem AmountEntry.ne_nil_of_digits? {a : AmountEntry} {cs : List Char} (h : a.digits? = some cs) : cs ≠ [] := by
  cases a with
  | number n =>
    rw [← Option.some.inj h]
    exact Nat.toDigits_ne_nil
  | text s =>
    simp only [digits?, Option.ite_none_right_eq_some, Bool.and_eq_true, Bool.not_eq_true', Option.some.injEq] at h
    obtain ⟨⟨hne, -⟩, rfl⟩ := h
    simpa using hne

theorem length_of_digitsOfText? {cs : List Char} (h : Number.digitsOfText? cs = some ds) :
    cs.length = ds.length :=
  (Json.mapM_eq_some_iff.mp h).length_eq

theorem isDigit_of_digitsOfText? {cs : List Char} (h : Number.digitsOfText? cs = some ds) :
    ∀ c ∈ cs, c.isDigit = true := by
  have hread := (Json.mapM_eq_some_iff.mp h).imp fun c d hd => (⟨by_contra fun hc => ?_, hd⟩ : c.isDigit = true ∧ _)
  · exact ((List.forall₂_and_left _ _).mp hread).1
  · simp [hc] at hd

/-- What such a rule asks for is the row of digits, which is not empty. -/
theorem Rule.LooksFor.predicate_eq (h : r.LooksFor ds) :
    ds ≠ [] ∧ ∃ text, r.predicate = .pattern text (.literal ds) := by
  obtain ⟨e, ⟨hplain, hsign, hrow⟩, hr⟩ := h
  obtain ⟨equality, hequality, hsign⟩ := Option.map_eq_some_iff.mp hsign
  obtain ⟨cs, hcs, hds⟩ := Option.bind_eq_some_iff.mp hrow
  obtain ⟨a, -, ha⟩ := Option.bind_eq_some_iff.mp hcs
  have hpredicate : Rule.predicate? e = .ok (.pattern (String.ofList cs) (.literal ds)) := by
    simp only [predicate?, hplain, hequality, hcs, predicateOf, hsign, if_true, hds]
  rw [ofEntry, hpredicate] at hr
  cases hr
  refine ⟨?_, String.ofList cs, rfl⟩
  rw [← List.length_pos_iff, ← length_of_digitsOfText? hds, List.length_pos_iff]
  exact AmountEntry.ne_nil_of_digits? ha

/-- The built-in rules for rows of digits are of this kind. -/
theorem BuiltIn.contains_looksFor (name emoji : String) {text : String} (hne : text ≠ "")
    (h : Number.digitsOfText? text.toList = some ds) : (contains name emoji text).LooksFor ds := by
  have hdigits : ∀ c ∈ text.toList, c.isDigit = true := isDigit_of_digitsOfText? h
  have htrimmed : Text.trimmed text.toList = text.toList := Text.trimmed_of_isDigit hdigits
  have hwritten : (AmountEntry.text text).digits? = some text.toList := by
    simpa [AmountEntry.digits?, htrimmed, hne] using hdigits
  refine ⟨{ name, emoji, equality := some "=~", amount := some (.text text) }, ⟨rfl, rfl, ?_⟩, ?_⟩
  · simpa [hwritten] using h
  · have hsign : Text.trim "=~" = "=~" := rfl
    simp [Rule.ofEntry, Rule.predicate?, Rule.predicateOf, hwritten, hsign, h, contains]

end Building

/-- How the row `ds` that `r` looks for is found in an amount, with the rules `pre` before `r` and `post` behind it. -/
structure NoneMissed (pre : List Rule) (r : Rule) (post : List Rule) (ds : List Digit) (amount : UInt64) : Prop where
  /-- Comparisons come first, then every hit at its place; those of `r` are among them. -/
  collected : hits (pre ++ r :: post) amount = (pre ++ r :: post).filter (·.compares amount) ++
    (placedHits (pre ++ r :: post) amount).map PatternHit.rule
  found : patternHits (pre ++ r :: post) (slotsOf amount) =
    patternHits pre (slotsOf amount) ++ r.hitsIn (slotsAfter pre amount) ++
      patternHits post (slotsAfter (pre ++ [r]) amount)
  /-- Wherever the row stands, one of its digits is used by `r` or by a rule before it. -/
  reached : ∀ i, ds <+: (Number.digits amount.toNat).drop i →
    ∃ h ∈ patternHits pre (slotsOf amount) ++ r.hitsIn (slotsAfter pre amount),
      ∃ k < ds.length, h.span.Covers (i + k)
  /-- Whatever `r` finds is the row, at the place of the hit. -/
  real : ∀ h ∈ r.hitsIn (slotsAfter pre amount), h.rule = r ∧
    ds <+: (Number.digits amount.toNat).drop h.span.start ∧ h.span.stop = h.span.start + ds.length

/-- A row of digits that a rule looks for is never missed, and is never found where it does not stand. -/
theorem looked_for_digits_found {pre post : List Rule} {r : Rule} {ds : List Digit} {amount : UInt64}
    (hequal : ∀ q ∈ pre ++ r :: post, q.isEquality = true → q.compares amount = false) (hr : r.LooksFor ds) :
    NoneMissed pre r post ds amount := by
  obtain ⟨hds, text, hpredicate⟩ := hr.predicate_eq
  refine ⟨hits_eq_of_no_equality hequal, patternHits_split pre r post amount, fun i hi => ?reached, fun h hh => ?real⟩
  case reached =>
    by_cases hfree : ∀ k < ds.length, ∀ h ∈ patternHits pre (slotsOf amount), ¬ h.span.Covers (i + k)
    · obtain ⟨s, hs, hcovers⟩ := exists_covers_of_stands hds (stands_slotsAfter.mpr ⟨hi, hfree⟩)
      have hown : (⟨r, s⟩ : PatternHit) ∈ r.hitsIn (slotsAfter pre amount) :=
        mem_hitsIn.mpr ⟨rfl, text, _, hpredicate, hs⟩
      exact ⟨⟨r, s⟩, List.mem_append_right _ hown, 0, List.length_pos_iff.mpr hds, hcovers⟩
    · push Not at hfree
      obtain ⟨k, hk, h, hh, hcovers⟩ := hfree
      exact ⟨h, List.mem_append_left _ hh, k, hk, hcovers⟩
  case real =>
    obtain ⟨hrule, _, _, hp, hs⟩ := mem_hitsIn.mp hh
    cases hpredicate.symm.trans hp
    obtain ⟨hstands, hstop⟩ := stands_of_mem_findSpans hs
    exact ⟨hrule, (stands_slotsAfter.mp hstands).1, hstop⟩

/-- Of the three 11 in 11234111 one is found: the first has lost its second digit to 1234, and the last its first digit
to the one that is found. -/
theorem looked_for_pairs_found :
    let countup := BuiltIn.contains "Countup Donation x 2" "🧛🧛" "1234"
    let dice := BuiltIn.contains "Dice Donation" "🎲" "11"
    (∀ q ∈ [countup] ++ dice :: BuiltIn.rules, q.isEquality = true → q.compares 11234111 = false) ∧
    dice.LooksFor [1, 1] ∧ NoneMissed [countup] dice BuiltIn.rules [1, 1] 11234111 ∧
    (dice.hitsIn (slotsAfter [countup] 11234111)).map PatternHit.span = [⟨5, 7⟩] := by
  intro countup dice
  have hequal : ∀ q ∈ [countup] ++ dice :: BuiltIn.rules, q.isEquality = true → q.compares 11234111 = false := by decide
  have hdice : dice.LooksFor [1, 1] := BuiltIn.contains_looksFor _ _ (by decide) rfl
  exact ⟨hequal, hdice, looked_for_digits_found hequal hdice, rfl⟩

end Numerology

end BoostFeed
