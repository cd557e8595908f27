import Mathlib.Data.List.Basic
import Mathlib.Data.List.Induction
import Mathlib.Logic.Relation
import BoostFeed.Numerology.BuiltIn
import BoostFeed.Numerology.Annotation

/-! Equalities that an amount meets. They decorate it alone, so that nothing done to the other rules of a list is seen. -/

namespace BoostFeed.Numerology

section Appearances

variable {α : Type} [DecidableEq α]

/-- The members of a list, each once, in the order in which they first stand there. -/
structure FirstAppearances (as bs : List α) : Prop where
  mem_iff : ∀ a, a ∈ bs ↔ a ∈ as
  ordered : bs.Pairwise fun a b => as.idxOf a < as.idxOf b

theorem firstAppearances_eraseDups (as : List α) : FirstAppearances as as.eraseDups := by
  refine ⟨fun a => List.mem_eraseDups, ?_⟩
  induction as using List.reverseRecOn with
  | nil => exact .nil
  | append_singleton as a ih =>
    have hidx {b : α} (hb : b ∈ as.eraseDups) : (as ++ [a]).idxOf b = as.idxOf b :=
      List.idxOf_append_of_mem (List.mem_eraseDups.mp hb)
    have hold : as.eraseDups.Pairwise fun b c => (as ++ [a]).idxOf b < (as ++ [a]).idxOf c :=
      ih.imp_of_mem fun hb hc hbc => by rwa [hidx hb, hidx hc]
    rw [List.eraseDups_append]
    by_cases ha : a ∈ as
    · have hnone : [a].removeAll as = [] := by simp [List.removeAll, ha]
      rw [hnone, List.eraseDups_nil, List.append_nil]
      exact hold
    · have hone : [a].removeAll as = [a] := by simp [List.removeAll, ha]
      have hlast : (as ++ [a]).idxOf a = as.length := by
        rw [List.idxOf_append_of_notMem ha, List.idxOf_cons_self, Nat.add_zero]
      rw [hone, List.eraseDups_cons, List.filter_nil, List.eraseDups_nil]
      refine List.pairwise_append.mpr ⟨hold, List.pairwise_singleton _ _, fun b hb c hc => ?_⟩
      rw [List.mem_singleton.mp hc, hlast, hidx hb]
      exact List.idxOf_lt_length_of_mem (List.mem_eraseDups.mp hb)

end Appearances

/-- The decoration by some rules alone: all their glyphs, each name and each sound file once. -/
structure Annotation.Shows (a : Annotation) (rs : List Rule) : Prop where
  glyphs : a.glyphs = String.join (rs.map Rule.emoji)
  names : ∃ names, FirstAppearances (rs.map Rule.name) names ∧ a.tooltip = ", ".intercalate names
  sounds : FirstAppearances (rs.filterMap Rule.soundFile) a.soundFiles

theorem Annotation.shows_ofHits (rs : List Rule) : Annotation.Shows (.ofHits rs) rs where
  glyphs := rfl
  names := ⟨_, firstAppearances_eraseDups _, rfl⟩
  sounds := firstAppearances_eraseDups _

/-- Whether a rule is the equality with this amount. -/
def Rule.equals (r : Rule) (amount : UInt64) : Bool := r.isEquality && r.compares amount

section Superseding

variable {rules rules' : List Rule} {amount : UInt64} {r q : Rule}

theorem Rule.equals_iff : r.equals amount = true ↔ r.predicate = .compare .equal amount := by
  unfold equals isEquality compares
  cases r.predicate with
  | pattern text p => simp
  | compare c bound =>
    cases c with
    | equal => simpa [Comparison.holds] using eq_comm
    | _ => simp

theorem hits_of_equals (h : ∃ r ∈ rules, r.equals amount = true) :
    hits rules amount = rules.filter (·.equals amount) := by
  obtain ⟨r, hr, hequals⟩ := h
  have hmem : r ∈ rules.filter fun r => r.isEquality && r.compares amount := List.mem_filter.mpr ⟨hr, hequals⟩
  have hsome : (rules.filter fun r => r.isEquality && r.compares amount).isEmpty = false :=
    List.isEmpty_eq_false_iff.mpr (List.ne_nil_of_mem hmem)
  simp only [hits, hsome, Bool.false_eq_true, if_false]
  rfl

/-- One change beside the equalities with an amount: another rule enters, leaves, or changes places with its neighbour. -/
inductive SideChange (amount : UInt64) : List Rule → List Rule → Prop
  | enter (pre : List Rule) (r : Rule) (post : List Rule) (hr : r.equals amount = false) :
    SideChange amount (pre ++ post) (pre ++ r :: post)
  | leave (pre : List Rule) (r : Rule) (post : List Rule) (hr : r.equals amount = false) :
    SideChange amount (pre ++ r :: post) (pre ++ post)
  | swap (pre : List Rule) (r q : Rule) (post : List Rule) (h : r.equals amount = false ∨ q.equals amount = false) :
    SideChange amount (pre ++ r :: q :: post) (pre ++ q :: r :: post)

theorem SideChange.filter_equals (h : SideChange amount rules rules') :
    rules'.filter (·.equals amount) = rules.filter (·.equals amount) := by
  cases h with
  | enter pre r post hr => simp [hr]
  | leave pre r post hr => simp [hr]
  | swap pre r q post h =>
    rcases h with hr | hq
    · simp [List.filter_cons, hr]
    · simp [List.filter_cons, hq]

theorem filter_equals_of_changes (h : Relation.ReflTransGen (SideChange amount) rules rules') :
    rules'.filter (·.equals amount) = rules.filter (·.equals amount) := by
  induction h with
  | refl => rfl
  | tail _ hstep ih => exact hstep.filter_equals.trans ih

/-- A matching equality supersedes everything: the equalities with the amount decorate it as they would alone, and no
changes beside them are seen. -/
theorem equalities_supersede (h : ∃ r ∈ rules, r.equals amount = true) :
    (annotate rules amount).Shows (rules.filter (·.equals amount)) ∧
      annotate rules amount = annotate (rules.filter (·.equals amount)) amount ∧
      ∀ rules', Relation.ReflTransGen (SideChange amount) rules rules' →
        annotate rules' amount = annotate rules amount := by
  have hannotate {rules : List Rule} (h : ∃ r ∈ rules, r.equals amount = true) :
      annotate rules amount = .ofHits (rules.filter (·.equals amount)) := by
    rw [annotate, hits_of_equals h]
  have hkept {rules' : List Rule} (hfilter : rules'.filter (·.equals amount) = rules.filter (·.equals amount)) :
      annotate rules' amount = annotate rules amount := by
    obtain ⟨r, hr, hequals⟩ := h
    have hmem : r ∈ rules'.filter (·.equals amount) := hfilter ▸ List.mem_filter.mpr ⟨hr, hequals⟩
    rw [hannotate ⟨r, (List.mem_filter.mp hmem).1, hequals⟩, hannotate ⟨r, hr, hequals⟩, hfilter]
  refine ⟨?_, (hkept (by simp)).symm, fun rules' hchanges => hkept (filter_equals_of_changes hchanges)⟩
  rw [hannotate h]
  exact Annotation.shows_ofHits _

/-- Three equalities with 11, of which two share a name and two a sound, among rules that 11 would meet as well. -/
theorem eleven_supersedes :
    let eleven : Rule := { BuiltIn.equals "Eleven" "🍆" 11 with soundFile := some "/pair.mp3" }
    let pair : Rule := { BuiltIn.equals "Pair" "🎲" 11 with soundFile := some "/pair.mp3" }
    let again := BuiltIn.equals "Eleven" "🔁" 11
    let dice := BuiltIn.contains "Dice Donation" "✌" "11"
    let lit := BuiltIn.compares "Lit" "🔥" .greaterOrEqual 10
    let rules := [eleven, dice, pair, again]
    let rules' := [lit, BuiltIn.equals "Ten" "🎳" 10, eleven, pair, again]
    ((∃ r ∈ rules, r.equals 11 = true) ∧ Relation.ReflTransGen (SideChange 11) rules rules') ∧
    (annotate rules 11).Shows [eleven, pair, again] ∧ annotate rules' 11 = annotate rules 11 ∧
    annotate rules 11 = ⟨"🍆🎲🔁", "Eleven, Pair", ["/pair.mp3"]⟩ := by
  intro eleven pair again dice lit rules rules'
  have hequals : ∃ r ∈ rules, r.equals 11 = true := ⟨eleven, List.mem_cons_self, Rule.equals_iff.mpr rfl⟩
  have hchanges : Relation.ReflTransGen (SideChange 11) rules rules' :=
    .trans (.single (.leave [eleven] dice [pair, again] rfl)) <|
      .trans (.single (.enter [] (BuiltIn.equals "Ten" "🎳" 10) [eleven, pair, again] rfl)) <|
        .single (.enter [] lit (BuiltIn.equals "Ten" "🎳" 10 :: [eleven, pair, again]) rfl)
  have hsupersede := equalities_supersede hequals
  exact ⟨⟨hequals, hchanges⟩, hsupersede.1, hsupersede.2.2 rules' hchanges, by decide +kernel⟩

end Superseding

end BoostFeed.Numerology
