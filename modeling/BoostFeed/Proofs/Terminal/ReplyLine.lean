import Mathlib.Data.List.Forall2
import BoostFeed.Terminal.Command
import BoostFeed.Proofs.Text.Digits
import BoostFeed.Proofs.Text.Words

/-! The line that replies to an event. A line is read as a reply exactly if its words are those of one, so nothing else
sends sats, and what a user lays out as a reply is sent as it was meant. -/

namespace BoostFeed

namespace Text

variable {c l : Char} {w small : List Char}

theorem isLower_iff_toNat : c.isLower = true ↔ 97 ≤ c.toNat ∧ c.toNat ≤ 122 := by
  change (decide (97 ≤ c.toNat) && decide (c.toNat ≤ 122)) = true ↔ _
  rw [Bool.and_eq_true, decide_eq_true_iff, decide_eq_true_iff]

theorem toNat_toLower (c : Char) :
    c.toLower.toNat = if 65 ≤ c.toNat ∧ c.toNat ≤ 90 then c.toNat + 32 else c.toNat := by
  have hup : ('a'.val - 'A'.val).toNat = 32 := by decide
  change (if _ : 65 ≤ c.toNat ∧ c.toNat ≤ 90 then _ else c).toNat = _
  split
  next h =>
    rw [Char.toNat_mk, UInt32.toNat_add, Char.toNat_val, hup]
    omega
  next => rfl

theorem toNat_toUpper (c : Char) :
    c.toUpper.toNat = if 97 ≤ c.toNat ∧ c.toNat ≤ 122 then c.toNat - 32 else c.toNat := by
  -- the step down is added as a word, and the sum wraps around
  have hdown : ('A'.val - 'a'.val).toNat = 2 ^ 32 - 32 := by decide
  change (if _ : 97 ≤ c.toNat ∧ c.toNat ≤ 122 then _ else c).toNat = _
  split
  next h =>
    rw [Char.toNat_mk, UInt32.toNat_add, Char.toNat_val, hdown]
    omega
  next => rfl

theorem toLower_eq_iff (h : l.isLower = true) : c.toLower = l ↔ c = l ∨ c = l.toUpper := by
  obtain ⟨hlo, hhi⟩ := isLower_iff_toNat.mp h
  simp only [← Char.toNat_inj, toNat_toLower, toNat_toUpper, hlo, hhi, and_self, if_true]
  split <;> omega

/-- A word of small letters, any of them written as capitals. -/
def InAnyCase (small w : List Char) : Prop := List.Forall₂ (fun c l => c = l ∨ c = l.toUpper) w small

theorem asciiLower_eq_iff (h : ∀ l ∈ small, l.isLower = true) : asciiLower w = small ↔ InAnyCase small w := by
  induction small generalizing w with
  | nil => simp [asciiLower, InAnyCase]
  | cons l small ih =>
    obtain ⟨hl, hsmall⟩ := List.forall_mem_cons.mp h
    cases w with
    | nil => simp [asciiLower, InAnyCase]
    | cons c w =>
      rw [asciiLower, List.map_cons, List.cons.injEq, toLower_eq_iff hl, InAnyCase, List.forall₂_cons]
      exact and_congr_right fun _ => ih hsmall

theorem isBlank_of_isLower_toLower (h : c.toLower.isLower = true) : isBlank c = false := by
  rw [isLower_iff_toNat, toNat_toLower] at h
  simp only [isBlank, Bool.or_eq_false_iff, Bool.and_eq_false_iff, decide_eq_false_iff_not, beq_eq_false_iff_ne]
  split at h <;> omega

theorem isWord_of_inAnyCase (h : ∀ l ∈ small, l.isLower = true) (hne : small ≠ []) (hw : InAnyCase small w) :
    IsWord w := by
  have hlower := (asciiLower_eq_iff h).mpr hw
  refine ⟨?_, fun c hc => isBlank_of_isLower_toLower (h _ (hlower ▸ List.mem_map_of_mem hc))⟩
  rintro rfl
  exact hne hlower.symm

theorem isWord_digitsOf (n : Nat) : IsWord (digitsOf n) where
  ne_nil := Nat.toDigits_ne_nil
  solid _ hc := isBlank_of_isDigit (Nat.isDigit_of_mem_toDigits (by decide) (by decide) hc)

end Text

namespace Terminal

open Text

/-- The text that the words of a message make, if there are any. -/
def messageOf (ws : List (List Char)) : Option String :=
  if ws = [] then none else some (" ".intercalate (ws.map String.ofList))

/-- The words that ask for a reply: its name in letters of any case, the index of an event, an amount above zero, and
the words of a message. -/
inductive AsksReply : List (List Char) → UInt64 → UInt64 → Option String → Prop where
  | reply {name i n : List Char} {index sats : UInt64} (hname : InAnyCase "reply".toList name)
    (hindex : ReadsAs i index.toNat) (hsats : ReadsAs n sats.toNat) (hpos : 0 < sats) (message : List (List Char)) :
    AsksReply (name :: i :: n :: message) index sats (messageOf message)

variable {line : String} {ws message : List (List Char)} {index sats : UInt64} {m : Option String}

theorem messageOf_eq (ws : List (List Char)) :
    messageOf ws = if ws = [] then none else some (String.ofList ([' '].intercalate ws)) := by
  have htext : " ".intercalate (ws.map String.ofList) = String.ofList ([' '].intercalate ws) := by
    rw [← String.toList_inj, String.toList_intercalate, String.toList_ofList, List.map_map]
    simp
  rw [messageOf, htext]

theorem words_messageOf (h : ∀ w ∈ message, IsWord w) : words ((messageOf message).getD "").toList = message := by
  rw [messageOf_eq]
  split
  next hnil => rw [hnil]; rfl
  next => rw [Option.getD_some, String.toList_ofList, words_intercalate h]

namespace Command

theorem parseReply_eq_ok_iff : parseReply ws = .ok (.reply index sats m) ↔
    ∃ i n message, ws = i :: n :: message ∧ ReadsAs i index.toNat ∧ ReadsAs n sats.toNat ∧ 0 < sats ∧
      messageOf message = m := by
  simp only [← uint64?_eq_some_iff]
  constructor
  · intro h
    unfold parseReply at h
    split at h
    next i n message =>
      split at h
      next x y hx hy =>
        split at h
        next => cases h
        next hy0 =>
          cases h
          exact ⟨i, n, message, rfl, hx, hy, UInt64.pos_iff_ne_zero.mpr hy0, messageOf_eq message⟩
      next => cases h
    next => cases h
  · rintro ⟨i, n, message, rfl, hi, hn, hpos, rfl⟩
    rw [parseReply, hi, hn, messageOf_eq]
    exact if_neg (UInt64.pos_iff_ne_zero.mp hpos)

theorem isLower_reply : ∀ l ∈ "reply".toList, l.isLower = true := by simp

theorem parseView_ne_reply (ws : List (List Char)) : parseView ws ≠ .ok (.reply index sats m) := by
  unfold parseView
  split
  · simp
  · split <;> simp

/-- Only a line that begins with the name is a reply. -/
theorem parse_eq_reply_iff : parse line = .ok (.reply index sats m) ↔
    ∃ name ws, words line.toList = name :: ws ∧ InAnyCase "reply".toList name ∧
      parseReply ws = .ok (.reply index sats m) := by
  simp only [← asciiLower_eq_iff isLower_reply]
  constructor
  · intro h
    unfold parse at h
    split at h
    next => cases h
    next name ws hwords =>
      refine ⟨name, ws, hwords, ?_⟩
      split at h
      -- the other names give commands of their own; only `view` reads on, and never as a reply
      any_goals cases h
      next => exact absurd h (parseView_ne_reply ws)
      next hname => exact ⟨by rw [← hname, String.toList_ofList], h⟩
  · rintro ⟨name, ws, hwords, hname, h⟩
    rw [parse, hwords]
    simp only [hname, String.ofList_toList]
    exact h

theorem parse_eq_reply_iff_asksReply :
    parse line = .ok (.reply index sats m) ↔ ∃ ws, HasWords line.toList ws ∧ AsksReply ws index sats m := by
  rw [parse_eq_reply_iff]
  constructor
  · rintro ⟨name, ws, hwords, hname, h⟩
    obtain ⟨i, n, message, rfl, hi, hn, hpos, rfl⟩ := parseReply_eq_ok_iff.mp h
    exact ⟨_, words_eq_iff.mp hwords, .reply hname hi hn hpos message⟩
  · rintro ⟨_, hwords, ⟨hname, hi, hn, hpos, message⟩⟩
    exact ⟨_, _, words_eq_iff.mpr hwords, hname, parseReply_eq_ok_iff.mpr ⟨_, _, _, rfl, hi, hn, hpos, rfl⟩⟩

/-- A line is read as a reply exactly if its words ask for that reply, and a reply laid out in a line with any blanks
around and between its words is read back, its message word by word. -/
theorem replies_read_as_written (index sats : UInt64) :
    (∀ line m, parse line = .ok (.reply index sats m) ↔
      ∃ ws, HasWords line.toList ws ∧ AsksReply ws index sats m) ∧
    ∀ name message, 0 < sats → InAnyCase "reply".toList name → (∀ w ∈ message, IsWord w) →
      let ws := name :: digitsOf index.toNat :: digitsOf sats.toNat :: message
      ∀ g : Gaps ws.length,
        parse (String.ofList (layOut ws g)) = .ok (.reply index sats (messageOf message)) ∧
        words ((messageOf message).getD "").toList = message := by
  refine ⟨fun line m => parse_eq_reply_iff_asksReply, fun name message hpos hname hmessage => ?_⟩
  intro ws g
  have hws : ∀ w ∈ ws, IsWord w := by
    simp only [ws, List.forall_mem_cons]
    exact ⟨isWord_of_inAnyCase isLower_reply (by simp) hname, isWord_digitsOf _, isWord_digitsOf _, hmessage⟩
  have hasks : AsksReply ws index sats (messageOf message) :=
    .reply hname (.inl (numeral_digitsOf _)) (.inl (numeral_digitsOf _)) hpos message
  have hwords : HasWords (String.ofList (layOut ws g)).toList ws := ⟨hws, g, String.toList_ofList.symm⟩
  exact ⟨parse_eq_reply_iff_asksReply.mpr ⟨ws, hwords, hasks⟩, words_messageOf hmessage⟩

/-- Words in a line may stand behind any blanks, and the name in any case. -/
theorem reply_between_odd_blanks :
    let message := ["thanks".toList, "again".toList]
    let ws := "RePly".toList :: digitsOf 42 :: digitsOf 100 :: message
    let line := "\tRePly\u00a042 \u3000100\u2003thanks\nagain "
    (0 < (100 : UInt64) ∧ InAnyCase "reply".toList "RePly".toList ∧ ∀ w ∈ message, IsWord w) ∧
    (∃ g : Gaps ws.length, String.ofList (layOut ws g) = line) ∧
    parse line = .ok (.reply 42 100 (some "thanks again")) := by
  intro message ws line
  let g : Gaps ws.length :=
    { gap := fun
        | 0 => ['\t'] | 1 => ['\u00a0'] | 2 => [' ', '\u3000'] | 3 => ['\u2003'] | 4 => ['\n'] | _ => [' ']
      blank := by intro i; split <;> simp [Blank, isBlank]
      apart := by intro i _ _; split <;> simp }
  have hname : InAnyCase "reply".toList "RePly".toList := by simp [InAnyCase]
  have hmessage : ∀ w ∈ message, IsWord w := by
    simp only [message, List.forall_mem_cons]
    exact ⟨⟨by simp, by simp [isBlank]⟩, ⟨by simp, by simp [isBlank]⟩, by simp⟩
  have hline : String.ofList (layOut ws g) = line := by decide +kernel
  have hread := ((replies_read_as_written 42 100).2 _ message (by decide) hname hmessage g).1
  have htext : messageOf message = some "thanks again" := by decide +kernel
  refine ⟨⟨by decide, hname, hmessage⟩, ⟨g, hline⟩, ?_⟩
  rw [← hline, ← htext]
  exact hread

end Command

end Terminal

end BoostFeed
