import Mathlib.Data.List.Induction
import Mathlib.Tactic.IntervalCases
import BoostFeed.Text.Blank
import BoostFeed.Text.Digits

/-! Decimal digits, as characters, as what a number prints and as what is read as a number. -/

namespace BoostFeed.Text

variable {c : Char} {cs w : List Char} {n v : Nat}

theorem isDigit_digitChar (h : v < 10) : (Nat.digitChar v).isDigit = true := by
  interval_cases v <;> rfl

theorem digitValue_digitChar (h : v < 10) : digitValue (Nat.digitChar v) = v := by
  interval_cases v <;> rfl

theorem exists_digitChar_eq (h : c.isDigit = true) : ∃ v < 10, Nat.digitChar v = c := by
  obtain ⟨h0, h9⟩ := Char.isDigit_iff_toNat.mp h
  have h0 : 48 ≤ c.toNat := h0
  have h9 : c.toNat ≤ 57 := h9
  have hv : c.toNat - 48 < 10 := by omega
  refine ⟨c.toNat - 48, hv, Char.toNat_inj.mp ?_⟩
  rw [Nat.toNat_digitChar_of_lt_ten hv]
  omega

theorem isBlank_of_isDigit (h : c.isDigit = true) : isBlank c = false := by
  obtain ⟨v, hv, rfl⟩ := exists_digitChar_eq h
  interval_cases v <;> rfl

/-- Induction on a number digit by digit, the last one last. -/
theorem digitsOf_induction {motive : Nat → List Char → Prop}
    (digit : ∀ v < 10, motive v [Nat.digitChar v])
    (more : ∀ n v, 0 < n → v < 10 → motive n (digitsOf n) → motive (10 * n + v) (digitsOf n ++ [Nat.digitChar v]))
    (n : Nat) : motive n (digitsOf n) := by
  induction n using Nat.strongRecOn with
  | ind n ih =>
    by_cases h : n < 10
    · rw [digitsOf, Nat.toDigits_of_lt_base h]
      exact digit n h
    · have hstep := more (n / 10) (n % 10) (by omega) (by omega) (ih (n / 10) (by omega))
      have hn : 10 * (n / 10) + n % 10 = n := by omega
      rw [hn] at hstep
      rw [digitsOf, Nat.toDigits_of_base_le (by omega) (by omega)]
      exact hstep

/-- A row of decimal digits with the number that it writes. It may begin with zeros. -/
inductive Numeral : List Char → Nat → Prop where
  | digit {v : Nat} (hv : v < 10) : Numeral [Nat.digitChar v] v
  | more {cs : List Char} {n v : Nat} (h : Numeral cs n) (hv : v < 10) :
    Numeral (cs ++ [Nat.digitChar v]) (10 * n + v)

theorem numeral_digitsOf (n : Nat) : Numeral (digitsOf n) n :=
  digitsOf_induction (motive := fun n cs => Numeral cs n) (fun _ hv => .digit hv) (fun _ _ _ hv h => .more h hv) n

theorem digits?_of_ne_nil (h : cs ≠ []) :
    digits? cs = if cs.all Char.isDigit then some (cs.foldl (fun n c => 10 * n + digitValue c) 0) else none := by
  cases cs with
  | nil => exact absurd rfl h
  | cons c cs => rfl

/-- The digits of a text are read in turn, the last one behind the number of those before it. -/
theorem digits?_concat (h : digits? cs = some n) (hv : v < 10) :
    digits? (cs ++ [Nat.digitChar v]) = some (10 * n + v) := by
  have hne : cs ≠ [] := by
    rintro rfl
    cases h
  rw [digits?_of_ne_nil hne, Option.ite_none_right_eq_some, Option.some.injEq] at h
  rw [digits?_of_ne_nil (by simp), List.all_append, h.1, List.foldl_append, h.2]
  simp [isDigit_digitChar hv, digitValue_digitChar hv]

theorem digits?_eq_some_iff : digits? cs = some n ↔ Numeral cs n := by
  constructor
  · intro h
    induction cs using List.reverseRecOn generalizing n with
    | nil => cases h
    | append_singleton cs c ih =>
      rw [digits?_of_ne_nil (by simp), Option.ite_none_right_eq_some, List.all_append, Bool.and_eq_true] at h
      obtain ⟨⟨hcs, hc⟩, hn⟩ := h
      obtain ⟨v, hv, rfl⟩ := exists_digitChar_eq (by simpa using hc)
      rw [List.foldl_append, List.foldl_cons, List.foldl_nil, digitValue_digitChar hv] at hn
      cases cs with
      | nil => simpa [← Option.some.inj hn] using Numeral.digit hv
      | cons d cs =>
        rw [← Option.some.inj hn]
        exact .more (ih (by rw [digits?_of_ne_nil (by simp), if_pos hcs])) hv
  · intro h
    induction h with
    | digit hv => simp [digits?, isDigit_digitChar hv, digitValue_digitChar hv]
    | more _ hv ih => exact digits?_concat ih hv

/-- A word that reads as a number: a row of digits, perhaps behind a plus. -/
def ReadsAs (w : List Char) (n : Nat) : Prop := Numeral w n ∨ ∃ ds, w = '+' :: ds ∧ Numeral ds n

theorem natural?_eq_some_iff : natural? w = some n ↔ ReadsAs w n := by
  unfold natural?
  split
  next ds =>
    -- a plus is no digit, so the word is no row of digits itself
    have hplus : ¬ Numeral ('+' :: ds) n := by
      rw [← digits?_eq_some_iff]
      simp [digits?]
    simp [ReadsAs, digits?_eq_some_iff, hplus]
  next hplus =>
    have hnone : ¬ ∃ ds, w = '+' :: ds ∧ Numeral ds n := by
      rintro ⟨ds, rfl, -⟩
      exact hplus ds rfl
    simp [ReadsAs, digits?_eq_some_iff, hnone]

theorem uint64?_eq_some_iff {i : UInt64} : uint64? w = some i ↔ ReadsAs w i.toNat := by
  simp only [uint64?, Option.bind_eq_some_iff, Option.ite_none_right_eq_some, Option.some.injEq, natural?_eq_some_iff]
  constructor
  · rintro ⟨n, hn, hlt, rfl⟩
    rwa [UInt64.toNat_ofNat_of_lt' hlt]
  · intro h
    exact ⟨i.toNat, h, i.toNat_lt_size, UInt64.ofNat_toNat⟩

end BoostFeed.Text
