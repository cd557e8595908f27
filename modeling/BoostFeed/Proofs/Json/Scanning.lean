import BoostFeed.Json.Token
import BoostFeed.Proofs.Text.Digits

/-! What a token prints is scanned as that token. A numeral stays open until a character comes that cannot go on
with it, so the scanner is said to stand behind a token rather than between two. -/

namespace BoostFeed

namespace Text

theorem exists_digitsOf_eq_cons (n : Nat) : ∃ v < 10, ∃ rest, digitsOf n = Nat.digitChar v :: rest := by
  refine digitsOf_induction (motive := fun _ cs => ∃ v < 10, ∃ rest, cs = Nat.digitChar v :: rest) ?_ ?_ n
  · exact fun v hv => ⟨v, hv, [], rfl⟩
  · rintro n w - - ⟨v, hv, rest, hrest⟩
    exact ⟨v, hv, rest ++ [Nat.digitChar w], by rw [hrest]; rfl⟩

end Text

namespace Json

open BoostFeed.Number (Digit)

namespace NumeralDraft

variable {d : NumeralDraft}

theorem next_digitChar {v : Nat} (h : v < 10) : d.next (Nat.digitChar v) = d.digit v := by
  simp only [next, Text.isDigit_digitChar h, Text.digitValue_digitChar h, if_true]

theorem foldlM_next_whole (negative : Bool) (n : Nat) :
    (Text.digitsOf n).foldlM next { spot := .sign, negative } =
      some { spot := if n = 0 then .zero else .whole, negative, whole := n } := by
  refine Text.digitsOf_induction (motive := fun n cs => cs.foldlM next { spot := .sign, negative } =
      some { spot := if n = 0 then .zero else .whole, negative, whole := n }) ?_ ?_ n
  · intro v hv
    simp [next_digitChar hv, digit]
  · intro n v hn hv ih
    have hpos : n ≠ 0 := by omega
    rw [List.foldlM_append, ih]
    simp [next_digitChar hv, digit, hpos]

theorem foldlM_next_places (hd : d.spot = .point ∨ d.spot = .fraction) (ds : List Digit) :
    (ds.map Digit.char).foldlM next d =
      some { d with spot := if ds = [] then d.spot else .fraction, fraction := ds.reverse ++ d.fraction } := by
  induction ds generalizing d with
  | nil => rfl
  | cons v ds ih =>
    have hfirst : d.next v.char = some { d with spot := .fraction, fraction := v :: d.fraction } := by
      rw [Digit.char, next_digitChar v.isLt, digit]
      rcases hd with hd | hd <;> simp [Digit.ofNat, hd]
    rw [List.map_cons, List.foldlM_cons, hfirst, Option.bind_eq_bind, Option.bind_some, ih (.inr rfl)]
    simp

theorem foldlM_next_fraction (hd : d.spot = .zero ∨ d.spot = .whole) (h0 : d.fraction = []) (ds : List Digit) :
    (if ds.isEmpty then [] else '.' :: ds.map Digit.char).foldlM next d =
      some { d with spot := if ds = [] then d.spot else .fraction, fraction := ds.reverse } := by
  by_cases hds : ds = []
  · cases d
    simp_all
  · have hpoint : d.next '.' = some { d with spot := .point } := by
      rcases hd with hd | hd <;> simp [next, hd]
    simp [hds, hpoint, foldlM_next_places, h0]

theorem foldlM_next_digitsOf_exponent (hd : d.spot = .markSign) (h0 : d.exponent = 0) (n : Nat) :
    (Text.digitsOf n).foldlM next d = some { d with spot := .exponent, exponent := n } := by
  refine Text.digitsOf_induction
    (motive := fun n cs => cs.foldlM next d = some { d with spot := .exponent, exponent := n }) ?_ ?_ n
  · intro v hv
    simp [next_digitChar hv, digit, hd, h0]
  · intro n v _ hv ih
    rw [List.foldlM_append, ih]
    simp [next_digitChar hv, digit]

theorem foldlM_next_exponentText (hd : d.spot = .zero ∨ d.spot = .whole ∨ d.spot = .fraction) (h0 : d.exponent = 0)
    (hsign : d.exponentNegative = false) (e : Int) :
    (Numeral.exponentText e).foldlM next d =
      some { d with spot := .exponent, exponentNegative := decide (e < 0), exponent := e.natAbs } := by
  have hmark : d.next 'e' = some { d with spot := .mark } := by
    rcases hd with hd | hd | hd <;> simp [next, hd]
  have hnext : ({ d with spot := .mark } : NumeralDraft).next (if e < 0 then '-' else '+') =
      some { d with spot := .markSign, exponentNegative := decide (e < 0) } := by
    by_cases he : e < 0 <;> simp [next, he, hsign]
  rw [Numeral.exponentText, List.foldlM_cons, hmark, Option.bind_eq_bind, Option.bind_some, List.foldlM_cons, hnext,
    Option.bind_eq_bind, Option.bind_some]
  exact foldlM_next_digitsOf_exponent (d := { d with spot := .markSign, exponentNegative := decide (e < 0) }) rfl h0 _

theorem finish_ne_exponent (h : d.spot ≠ .exponent) : d.finish = ⟨d.negative, d.whole, d.fraction.reverse, none⟩ := by
  simp [finish, h]

theorem finish_exponent (h : d.spot = .exponent) (e : Int) (hsign : d.exponentNegative = decide (e < 0))
    (he : d.exponent = e.natAbs) : d.finish = ⟨d.negative, d.whole, d.fraction.reverse, some e⟩ := by
  have hvalue : (if decide (e < 0) then -(e.natAbs : Int) else (e.natAbs : Int)) = e := by
    by_cases h0 : e < 0 <;> simp only [h0, decide_true, decide_false, if_true, Bool.false_eq_true, if_false] <;> omega
  simp only [finish, h, hsign, he, hvalue, if_true]

/-- A numeral behind its sign. -/
theorem exists_next_print (n : Numeral) :
    ∃ d, (Text.digitsOf n.whole ++ (if n.fraction.isEmpty then [] else '.' :: n.fraction.map Digit.char) ++
        (n.exponent.map Numeral.exponentText).getD []).foldlM next { spot := .sign, negative := n.negative } = some d ∧
      d.complete = true ∧ d.finish = n := by
  obtain ⟨negative, whole, fraction, exponent⟩ := n
  let w : NumeralDraft := { spot := if whole = 0 then .zero else .whole, negative, whole }
  let f : NumeralDraft := { w with spot := if fraction = [] then w.spot else .fraction, fraction := fraction.reverse }
  have hw : w.spot = .zero ∨ w.spot = .whole := by
    by_cases h : whole = 0 <;> simp [w, h]
  have hf : f.spot = .zero ∨ f.spot = .whole ∨ f.spot = .fraction := by
    by_cases h : fraction = []
    · simpa [f, h] using hw.imp_right .inl
    · simp [f, h]
  have hfront : (Text.digitsOf whole ++ (if fraction.isEmpty then [] else '.' :: fraction.map Digit.char)).foldlM next
      { spot := .sign, negative } = some f := by
    rw [List.foldlM_append, foldlM_next_whole, Option.bind_eq_bind, Option.bind_some]
    exact foldlM_next_fraction hw rfl fraction
  simp only [List.foldlM_append, hfront, Option.bind_eq_bind, Option.bind_some]
  cases exponent with
  | none =>
    refine ⟨f, rfl, ?_, ?_⟩
    · rcases hf with hf | hf | hf <;> simp [complete, hf]
    · rw [finish_ne_exponent (by rcases hf with hf | hf | hf <;> simp [hf])]
      simp [f, w]
  | some e =>
    refine ⟨_, foldlM_next_exponentText hf rfl rfl e, rfl, ?_⟩
    rw [finish_exponent rfl e rfl rfl]
    simp [f, w]

end NumeralDraft

/-- What can stand right behind a value. -/
def Token.separates : Token → Bool
  | .comma | .closeArray | .closeObject => true
  | _ => false

namespace Scanner

variable {ts : List Token}

/-- The scanner stands behind these tokens, the last one first. -/
inductive Behind : Scanner → List Token → Prop
  | between (ts : List Token) : Behind ⟨.between, ts⟩ ts
  | number (d : NumeralDraft) (ts : List Token) (h : d.complete = true) :
    Behind ⟨.number d, ts⟩ (.number d.finish :: ts)

theorem Behind.finish {s : Scanner} (h : s.Behind ts) : s.finish = some ts.reverse := by
  cases h with
  | between => rfl
  | number d ts h => simp [Scanner.finish, h]

theorem foldlM_step_number {d d' : NumeralDraft} {cs : List Char} (h : cs.foldlM NumeralDraft.next d = some d') :
    cs.foldlM step ⟨.number d, ts⟩ = some ⟨.number d', ts⟩ := by
  induction cs generalizing d with
  | nil =>
    cases h
    rfl
  | cons c cs ih =>
    rw [List.foldlM_cons] at h ⊢
    obtain ⟨d₁, hfirst, hrest⟩ := Option.bind_eq_some_iff.mp h
    have hstep : step ⟨.number d, ts⟩ c = some ⟨.number d₁, ts⟩ := by simp only [step, hfirst]
    rw [hstep]
    exact ih hrest

theorem begin_digitChar {v : Nat} (h : v < 10) :
    begin ts (Nat.digitChar v) = step ⟨.number { spot := .sign }, ts⟩ (Nat.digitChar v) := by
  interval_cases v <;> rfl

theorem step_numeral (ts : List Token) (n : Numeral) :
    ∃ d, n.print.foldlM step ⟨.between, ts⟩ = some ⟨.number d, ts⟩ ∧ d.complete = true ∧ d.finish = n := by
  obtain ⟨d, hd, hcomplete, hfinish⟩ := NumeralDraft.exists_next_print n
  refine ⟨d, ?_, hcomplete, hfinish⟩
  have hbody : (_ : List Char).foldlM step ⟨.number _, ts⟩ = some ⟨.number d, ts⟩ := foldlM_step_number hd
  cases hn : n.negative with
  | true =>
    rw [hn] at hbody
    simpa [Numeral.print, hn, step, begin] using hbody
  | false =>
    obtain ⟨v, hv, rest, hcons⟩ := Text.exists_digitsOf_eq_cons n.whole
    have hfirst : step ⟨.between, ts⟩ (Nat.digitChar v) = step ⟨.number { spot := .sign }, ts⟩ (Nat.digitChar v) :=
      begin_digitChar hv
    rw [hn, hcons] at hbody
    simp only [Numeral.print, hn, hcons, Bool.false_eq_true, if_false, List.nil_append, List.cons_append,
      List.foldlM_cons] at hbody ⊢
    rw [hfirst]
    exact hbody

theorem hexValue?_digitChar {v : Nat} (h : v < 16) : hexValue? (Nat.digitChar v) = some v := by
  interval_cases v <;> rfl

/-- A control character is no surrogate, so its four digits write it alone. -/
theorem foldlM_step_hex4 {c : Char} (hc : c.toNat < 0x20) (cs : List Char) :
    (Token.hex4 c.toNat).foldlM step ⟨.hex ⟨some cs, none⟩ 3 0, ts⟩ = some ⟨.quoted ⟨some (c :: cs), none⟩, ts⟩ := by
  have hdigit : ∀ k, hexValue? (Nat.digitChar (k % 16)) = some (k % 16) := fun k =>
    hexValue?_digitChar (Nat.mod_lt k (by decide))
  have hvalue : 16 * (16 * (16 * (c.toNat / 4096 % 16) + c.toNat / 256 % 16) + c.toNat / 16 % 16) + c.toNat % 16 =
      c.toNat := by omega
  have hhigh : Quoted.isHigh c.toNat = false := by simp [Quoted.isHigh]; omega
  have hlow : Quoted.isLow c.toNat = false := by simp [Quoted.isLow]; omega
  simp [Token.hex4, step, hdigit, hvalue, Quoted.unit, Quoted.char, hhigh, hlow]

theorem foldlM_step_printChar (c : Char) (cs : List Char) :
    (Token.printChar c).foldlM step ⟨.quoted ⟨some cs, none⟩, ts⟩ = some ⟨.quoted ⟨some (c :: cs), none⟩, ts⟩ := by
  unfold Token.printChar
  split
  case h_8 hquote hbackslash _ _ _ _ _ =>
    by_cases hc : c.toNat < 0x20
    · have hescape : step ⟨.quoted ⟨some cs, none⟩, ts⟩ '\\' = some ⟨.escape ⟨some cs, none⟩, ts⟩ := rfl
      have hunicode : step ⟨.escape ⟨some cs, none⟩, ts⟩ 'u' = some ⟨.hex ⟨some cs, none⟩ 3 0, ts⟩ := rfl
      simp only [hc, if_true, List.foldlM_cons, hescape, hunicode, Option.bind_eq_bind, Option.bind_some]
      exact foldlM_step_hex4 hc cs
    · have hq : c ≠ '"' := fun h => hquote h
      have hb : c ≠ '\\' := fun h => hbackslash h
      simp [hc, step, hq, hb, Quoted.char]
  all_goals rfl

theorem foldlM_step_chars (s cs : List Char) :
    (s.flatMap Token.printChar).foldlM step ⟨.quoted ⟨some cs, none⟩, ts⟩ =
      some ⟨.quoted ⟨some (s.reverse ++ cs), none⟩, ts⟩ := by
  induction s generalizing cs with
  | nil => rfl
  | cons c s ih =>
    rw [List.flatMap_cons, List.foldlM_append, foldlM_step_printChar, Option.bind_eq_bind, Option.bind_some, ih]
    simp

theorem foldlM_step_string (s : Option String) :
    (Token.printString s).foldlM step ⟨.between, ts⟩ = some ⟨.between, .string s :: ts⟩ := by
  cases s with
  | none => rfl
  | some s =>
    have hopen : step ⟨.between, ts⟩ '"' = some ⟨.quoted ⟨some [], none⟩, ts⟩ := rfl
    have hclose : ∀ cs, step ⟨.quoted ⟨some cs, none⟩, ts⟩ '"' =
        some ⟨.between, .string (some (String.ofList cs.reverse)) :: ts⟩ := fun _ => rfl
    simp [Token.printString, hopen, hclose, foldlM_step_chars]

/-- Where a token may begin, every token is scanned as it was printed. -/
theorem exists_behind_print (token : Token) :
    ∃ s, token.print.foldlM step ⟨.between, ts⟩ = some s ∧ s.Behind (token :: ts) := by
  cases token with
  | number n =>
    obtain ⟨d, hd, hcomplete, rfl⟩ := step_numeral ts n
    exact ⟨_, hd, .number d ts hcomplete⟩
  | string s => exact ⟨_, foldlM_step_string s, .between _⟩
  | bool b => cases b <;> exact ⟨_, rfl, .between _⟩
  | _ => exact ⟨_, rfl, .between _⟩

/-- A separator ends a numeral that is still open. -/
theorem Behind.separator {s : Scanner} (h : s.Behind ts) {token : Token} (ht : token.separates = true) :
    token.print.foldlM step s = some ⟨.between, token :: ts⟩ := by
  cases h with
  | between => cases token <;> first | rfl | cases ht
  | number d ts hcomplete =>
    have hnext : ∀ c ∈ [',', ']', '\x7d'], d.next c = none := by simp [NumeralDraft.next]
    cases token with
    | comma => simp [Token.print, step, hnext, hcomplete, begin]
    | closeArray => simp [Token.print, step, hnext, hcomplete, begin]
    | closeObject => simp [Token.print, step, hnext, hcomplete, begin]
    | _ => cases ht

end Scanner

end Json

end BoostFeed
