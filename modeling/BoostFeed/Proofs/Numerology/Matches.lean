import Mathlib.Data.List.Basic
import BoostFeed.Numerology.Pattern.Basic

/-! Matches of a pattern in a run of digits. They lie inside the run; a search lists them from left to right, none
overlapping, and passes over no place where the pattern matches digits. The pattern of a row of digits matches exactly
where these digits stand. -/

namespace BoostFeed.Numerology.Pattern

open BoostFeed.Number (Digit)

/-- No match ends behind the run. -/
def Ends.Within (size : Nat) (t : Ends) : Prop := ∀ ends ∈ t, ∀ q ∈ ends, q ≤ size

section Bounds

variable {size : Nat} {t u : Ends}

theorem Ends.Within.le_of_mem_at (h : t.Within size) {place q : Nat} (hq : q ∈ t.at place) : q ≤ size := by
  rw [Ends.at, List.getD_eq_getElem?_getD] at hq
  cases hends : t[place]? with
  | none => simp [hends] at hq
  | some ends =>
    rw [hends, Option.getD_some] at hq
    exact h ends (List.mem_of_getElem? hends) q hq

theorem Ends.within_stay (size : Nat) : (stay size).Within size := by
  intro ends hends q hq
  obtain ⟨p, hp, rfl⟩ := List.mem_map.mp hends
  have hlt := List.mem_range.mp hp
  rw [List.mem_singleton.mp hq]
  omega

theorem Ends.Within.andThen (hu : u.Within size) (t : Ends) : (t.andThen u).Within size := by
  intro ends hends q hq
  obtain ⟨first, -, rfl⟩ := List.mem_map.mp hends
  obtain ⟨p, -, hp⟩ := List.mem_flatMap.mp (List.mem_eraseDups.mp hq)
  exact hu.le_of_mem_at hp

theorem Ends.Within.orElse (ht : t.Within size) (hu : u.Within size) : (t.orElse u).Within size := by
  intro ends hends q hq
  rw [Ends.orElse, ← List.map_uncurry_zip_eq_zipWith] at hends
  obtain ⟨⟨a, b⟩, hab, rfl⟩ := List.mem_map.mp hends
  have hab := List.of_mem_zip hab
  rcases List.mem_append.mp (List.mem_eraseDups.mp hq) with hq | hq
  · exact ht a hab.1 q hq
  · exact hu b hab.2 q hq

theorem Ends.Within.times (ht : t.Within size) (n : Nat) : (t.times size n).Within size := by
  cases n with
  | zero => exact within_stay size
  | succ n => exact ht.andThen _

theorem Ends.Within.upTo (greedy : Bool) (t : Ends) (n : Nat) : (t.upTo size greedy n).Within size := by
  induction n with
  | zero => exact within_stay size
  | succ n ih =>
    unfold Ends.upTo
    cases greedy with
    | true => exact (ih.andThen t).orElse (within_stay size)
    | false => exact (within_stay size).orElse (ih.andThen t)

theorem Ends.Within.manyFrom (ht : t.Within size) (greedy : Bool) (n : Nat) :
    (t.manyFrom size greedy n).Within size := by
  induction n with
  | zero => exact fun _ h => absurd h List.not_mem_nil
  | succ n ih =>
    intro ends hends q hq
    rcases List.mem_cons.mp hends with rfl | hends
    · obtain ⟨p, hp, hq⟩ := List.mem_flatMap.mp (List.mem_eraseDups.mp hq)
      have hp := ht.le_of_mem_at hp
      split at hq
      · rw [List.mem_singleton.mp hq]
        omega
      · cases greedy with
        | true =>
          rcases List.mem_append.mp hq with hq | hq
          · exact ih.le_of_mem_at hq
          · rwa [List.mem_singleton.mp hq]
        | false =>
          rcases List.mem_cons.mp hq with rfl | hq
          · exact hp
          · exact ih.le_of_mem_at hq
    · exact ih ends hends q hq

/-- A match ends inside the run, whatever the pattern. -/
theorem ends_within (run : List Digit) (p : Pattern) : (p.ends run).Within run.length := by
  induction p with
  | empty => exact Ends.within_stay _
  | digit allowed =>
    intro ends hends q hq
    obtain ⟨place, -, rfl⟩ := List.mem_map.mp hends
    cases hd : run[place]? with
    | none => simp [hd] at hq
    | some d =>
      have hlt := (List.getElem?_eq_some_iff.mp hd).1
      simp only [hd] at hq
      split at hq
      · rw [List.mem_singleton.mp hq]
        omega
      · cases hq
  | edge e =>
    intro ends hends q hq
    obtain ⟨place, hplace, rfl⟩ := List.mem_map.mp hends
    have hlt := List.mem_range.mp hplace
    split at hq
    · rw [List.mem_singleton.mp hq]
      omega
    · cases hq
  | seq a b iha ihb => exact ihb.andThen _
  | alt a b iha ihb => exact iha.orElse ihb
  | repeated a least most greedy ih =>
    have hmany : ((a.ends run).many run.length greedy).Within run.length := ih.manyFrom greedy _
    unfold ends
    cases most with
    | some most => exact (Ends.Within.upTo greedy _ _).andThen _
    | none =>
      cases least with
      | zero =>
        cases greedy with
        | true => exact hmany.orElse (Ends.within_stay _)
        | false => exact (Ends.within_stay _).orElse hmany
      | succ n => exact hmany.andThen _

end Bounds

section Search

variable {t : Ends} {place n : Nat}

theorem mem_spansFrom {x : Nat × Nat} (h : x ∈ spansFrom t place n) :
    place ≤ x.1 ∧ x.1 < x.2 ∧ (t.at x.1).head? = some x.2 := by
  induction n generalizing place with
  | zero => cases h
  | succ n ih =>
    unfold spansFrom at h
    split at h
    next stop hstop =>
      split at h
      next hlt =>
        rcases List.mem_cons.mp h with rfl | h
        · exact ⟨Nat.le_refl _, hlt, hstop⟩
        · have hlater := ih h
          exact ⟨by omega, hlater.2⟩
      next =>
        have hlater := ih h
        exact ⟨by omega, hlater.2⟩
    next =>
      have hlater := ih h
      exact ⟨by omega, hlater.2⟩

theorem spansFrom_ordered (t : Ends) (place n : Nat) :
    (spansFrom t place n).Pairwise (fun x y => x.2 ≤ y.1) := by
  induction n generalizing place with
  | zero => exact .nil
  | succ n ih =>
    unfold spansFrom
    split
    · split
      · exact List.pairwise_cons.mpr ⟨fun y hy => (mem_spansFrom hy).1, ih _⟩
      · exact ih _
    · exact ih _

/-- A place where digits are matched is not passed over: a match that is found reaches over it. -/
theorem exists_mem_spansFrom {p stop : Nat} (hstop : (t.at p).head? = some stop) (hlt : p < stop)
    (hplace : place ≤ p) (hn : p < place + n) : ∃ x ∈ spansFrom t place n, x.1 ≤ p ∧ p < x.2 := by
  induction n generalizing place with
  | zero => omega
  | succ n ih =>
    unfold spansFrom
    by_cases hp : p = place
    · subst hp
      simp [hstop, hlt]
    · split
      next stop' hstop' =>
        split
        next hlt' =>
          by_cases hover : p < stop'
          · exact ⟨_, List.mem_cons_self, hplace, hover⟩
          · have hahead : stop' ≤ p := Nat.le_of_not_lt hover
            obtain ⟨x, hx, hx'⟩ := ih hahead (by omega)
            exact ⟨x, List.mem_cons_of_mem _ hx, hx'⟩
        next => exact ih (by omega) (by omega)
      next => exact ih (by omega) (by omega)

end Search

section Spans

variable {p : Pattern} {run : List Digit}

/-- A found match takes at least one digit of the run. -/
theorem mem_spans {x : Nat × Nat} (h : x ∈ p.spans run) :
    x.1 < x.2 ∧ x.2 ≤ run.length ∧ ((p.ends run).at x.1).head? = some x.2 := by
  obtain ⟨-, hlt, hstop⟩ := mem_spansFrom h
  exact ⟨hlt, (ends_within run p).le_of_mem_at (List.mem_of_head? hstop), hstop⟩

/-- Matches are found from left to right and do not overlap. -/
theorem spans_ordered (p : Pattern) (run : List Digit) : (p.spans run).Pairwise (fun x y => x.2 ≤ y.1) :=
  spansFrom_ordered _ _ _

end Spans

section Literal

theorem has_single {c d : Digit} : (DigitSet.single c).has d = true ↔ d = c := by
  simp only [DigitSet.has, DigitSet.single, BitVec.getLsbD_twoPow, Bool.and_eq_true, decide_eq_true_eq]
  constructor
  · rintro ⟨-, h⟩
    exact Fin.ext h.symm
  · rintro rfl
    exact ⟨d.isLt, rfl⟩

theorem literal_injective : Function.Injective literal := by
  intro ds
  induction ds with
  | nil =>
    intro es h
    cases es with
    | nil => rfl
    | cons e es => cases h
  | cons d ds ih =>
    intro es h
    cases es with
    | nil => cases h
    | cons e es =>
      obtain ⟨hfirst, hrest⟩ := Pattern.seq.inj h
      have hd : (DigitSet.single e).has d = true := by
        rw [← Pattern.digit.inj hfirst]
        exact has_single.mpr rfl
      rw [has_single.mp hd, ih hrest]

theorem at_andThen {t u : Ends} {place : Nat} : (t.andThen u).at place = ((t.at place).flatMap u.at).eraseDups := by
  simp only [Ends.andThen, Ends.at, List.getD_eq_getElem?_getD, List.getElem?_map]
  cases t[place]? <;> rfl

theorem at_map_range {f : Nat → List Nat} {size place : Nat} (h : place ≤ size) :
    Ends.at ((List.range (size + 1)).map f) place = f place := by
  simp [Ends.at, List.getD_eq_getElem?_getD, List.getElem?_range (Nat.lt_succ_of_le h)]

/-- The pattern of a row of digits matches these digits and nothing else. -/
theorem at_ends_literal (ds : List Digit) {run : List Digit} {place : Nat} (h : place ≤ run.length) :
    ((literal ds).ends run).at place = if ds <+: run.drop place then [place + ds.length] else [] := by
  induction ds generalizing place with
  | nil =>
    rw [if_pos (List.nil_prefix)]
    exact at_map_range h
  | cons d ds ih =>
    have hfirst : ((digit (.single d)).ends run).at place =
        if run[place]? = some d then [place + 1] else [] := by
      unfold ends
      rw [at_map_range h]
      cases hc : run[place]? with
      | none => rfl
      | some c => simp [has_single]
    have hcons : d :: ds <+: run.drop place ↔ run[place]? = some d ∧ ds <+: run.drop (place + 1) := by
      cases hc : run[place]? with
      | none => simp [List.drop_eq_nil_iff.mpr (List.getElem?_eq_none_iff.mp hc)]
      | some c =>
        obtain ⟨hlt, hc⟩ := List.getElem?_eq_some_iff.mp hc
        rw [List.drop_eq_getElem_cons hlt, hc, List.cons_prefix_cons, Option.some.injEq, eq_comm]
    rw [literal, ends, at_andThen, hfirst]
    by_cases hd : run[place]? = some d
    · have hlt := (List.getElem?_eq_some_iff.mp hd).1
      simp only [hcons, hd, true_and, if_true, List.flatMap_singleton, ih (Nat.succ_le_of_lt hlt)]
      split
      · simp [List.eraseDups_cons, Nat.add_assoc, Nat.add_comm 1]
      · rfl
    · simp only [hcons, hd, false_and, if_false, List.flatMap_nil]
      rfl

variable {ds run : List Digit}

/-- A row of digits is found only where it stands. -/
theorem prefix_of_mem_spans_literal {x : Nat × Nat} (h : x ∈ (literal ds).spans run) :
    ds <+: run.drop x.1 ∧ x.2 = x.1 + ds.length := by
  obtain ⟨hlt, hle, hstop⟩ := mem_spans h
  rw [at_ends_literal ds (by omega)] at hstop
  split at hstop
  next hds => exact ⟨hds, (Option.some.inj hstop).symm⟩
  next => cases hstop

/-- Where a row of digits stands, it is found there or overlaps what is found before. -/
theorem exists_mem_spans_literal (hds : ds ≠ []) {p : Nat} (h : ds <+: run.drop p) :
    ∃ x ∈ (literal ds).spans run, x.1 ≤ p ∧ p < x.2 := by
  have hpos : 0 < ds.length := List.length_pos_iff.mpr hds
  have hlength : ds.length ≤ run.length - p := by simpa using h.length_le
  have hstop : (((literal ds).ends run).at p).head? = some (p + ds.length) := by
    rw [at_ends_literal ds (by omega), if_pos h]
    rfl
  exact exists_mem_spansFrom hstop (by omega) (Nat.zero_le _) (by omega)

end Literal

end BoostFeed.Numerology.Pattern
