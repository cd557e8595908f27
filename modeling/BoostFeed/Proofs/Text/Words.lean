import Mathlib.Data.List.Basic
import Mathlib.Data.List.TakeWhile
import BoostFeed.Text.Blank

/-! The words of a text. However words are laid out with blanks around and between them, these are the words of the text,
and each text is some words laid out so. -/

namespace BoostFeed.Text

/-- Blanks only, or no characters at all. -/
def Blank (cs : List Char) : Prop := ∀ c ∈ cs, isBlank c = true

/-- A word has characters, and none of them is blank. -/
structure IsWord (w : List Char) : Prop where
  ne_nil : w ≠ []
  solid : ∀ c ∈ w, isBlank c = false

/-- No word goes on at the front of the text. -/
def Breaks (cs : List Char) : Prop := ∀ c ∈ cs.head?, isBlank c = true

/-- Gaps for a number of words, one before each of them and one behind the last. Two words do not run together. -/
structure Gaps (count : Nat) where
  gap : Nat → List Char
  blank : ∀ i, Blank (gap i)
  apart : ∀ i, 0 < i → i < count → gap i ≠ []

namespace Gaps

variable {count : Nat}

def tail (g : Gaps (count + 1)) : Gaps count where
  gap i := g.gap (i + 1)
  blank i := g.blank (i + 1)
  apart i _ h := g.apart (i + 1) (Nat.succ_pos i) (Nat.succ_lt_succ h)

def cons (front : List Char) (hfront : Blank front) (g : Gaps count) (h : 0 < count → g.gap 0 ≠ []) :
    Gaps (count + 1) where
  gap
    | 0 => front
    | i + 1 => g.gap i
  blank
    | 0 => hfront
    | i + 1 => g.blank i
  apart
    -- the gap between the first two words is the one that stood before the first of the others
    | 1, _, hi => h (Nat.lt_of_succ_lt_succ hi)
    | i + 2, _, hi => g.apart (i + 1) (Nat.succ_pos i) (Nat.lt_of_succ_lt_succ hi)

end Gaps

/-- Words with the gaps around them. -/
def layOut : (ws : List (List Char)) → Gaps ws.length → List Char
  | [], g => g.gap 0
  | w :: ws, g => g.gap 0 ++ w ++ layOut ws g.tail

/-- A text is some words with blanks around and between them. -/
def HasWords (cs : List Char) (ws : List (List Char)) : Prop :=
  (∀ w ∈ ws, IsWord w) ∧ ∃ g : Gaps ws.length, layOut ws g = cs

variable {cs gap rest w : List Char} {ws : List (List Char)}

theorem words_append_of_blank (h : Blank gap) (cs : List Char) : words (gap ++ cs) = words cs := by
  induction gap with
  | nil => rfl
  | cons c gap ih =>
    obtain ⟨hc, hgap⟩ := List.forall_mem_cons.mp h
    rw [List.cons_append, words, pieces, if_pos hc]
    exact ih hgap

theorem words_of_blank (h : Blank gap) : words gap = [] := by
  simpa [words, pieces] using words_append_of_blank h []

theorem pieces_append_of_solid (h : ∀ c ∈ w, isBlank c = false) (rest : List Char) :
    pieces isBlank (w ++ rest) = (pieces isBlank rest).modifyHead (w ++ ·) := by
  induction w with
  | nil => exact (congrFun List.modifyHead_id _).symm
  | cons c w ih =>
    obtain ⟨hc, hw⟩ := List.forall_mem_cons.mp h
    rw [List.cons_append, pieces, ih hw, hc]
    cases pieces isBlank rest <;> rfl

theorem exists_pieces_of_breaks (h : Breaks rest) : ∃ ps, pieces isBlank rest = [] :: ps := by
  cases rest with
  | nil => exact ⟨[], rfl⟩
  | cons c rest =>
    have hc : isBlank c = true := h c rfl
    exact ⟨_, if_pos hc⟩

/-- A word that what follows breaks off is the first word of the text. -/
theorem words_append_of_isWord (hw : IsWord w) (h : Breaks rest) : words (w ++ rest) = w :: words rest := by
  obtain ⟨ps, hps⟩ := exists_pieces_of_breaks h
  have hkept : (!w.isEmpty) = true := by simpa using hw.ne_nil
  rw [words, words, pieces_append_of_solid hw.solid, hps]
  simp [hkept]

theorem breaks_append_of_blank (hgap : Blank gap) (hne : gap ≠ []) (cs : List Char) : Breaks (gap ++ cs) := by
  intro c hc
  rw [List.head?_append_of_ne_nil _ hne] at hc
  exact hgap c (List.mem_of_mem_head? hc)

theorem not_breaks_of_isWord (hw : IsWord w) (rest : List Char) : ¬ Breaks (w ++ rest) := by
  obtain ⟨c, w', rfl⟩ := List.exists_cons_of_ne_nil hw.ne_nil
  intro h
  have hblank := h c rfl
  rw [hw.solid c List.mem_cons_self] at hblank
  cases hblank

theorem breaks_layOut_tail (g : Gaps (ws.length + 1)) : Breaks (layOut ws g.tail) := by
  -- behind the last word stands its gap alone, behind any other a gap that is not empty
  cases ws with
  | nil => exact fun c hc => g.blank 1 c (List.mem_of_mem_head? hc)
  | cons w ws =>
    have hapart := g.apart 1 Nat.one_pos (Nat.succ_lt_succ ws.length.succ_pos)
    rw [layOut, List.append_assoc]
    exact breaks_append_of_blank (g.blank 1) hapart _

theorem words_layOut (hws : ∀ w ∈ ws, IsWord w) (g : Gaps ws.length) : words (layOut ws g) = ws := by
  induction ws with
  | nil => exact words_of_blank (g.blank 0)
  | cons w ws ih =>
    obtain ⟨hw, hws⟩ := List.forall_mem_cons.mp hws
    rw [layOut, List.append_assoc, words_append_of_blank (g.blank 0), words_append_of_isWord hw (breaks_layOut_tail g),
      ih hws]

theorem gap_ne_nil_of_breaks (hws : ∀ w ∈ ws, IsWord w) {g : Gaps ws.length} (h : Breaks (layOut ws g))
    (hpos : 0 < ws.length) : g.gap 0 ≠ [] := by
  intro hnil
  cases ws with
  | nil => cases hpos
  | cons w ws =>
    rw [layOut, hnil, List.nil_append] at h
    exact not_breaks_of_isWord (hws w List.mem_cons_self) _ h

theorem breaks_dropWhile (cs : List Char) : Breaks (cs.dropWhile (!isBlank ·)) := by
  intro c hc
  have h := List.head?_dropWhile_not (!isBlank ·) cs
  rw [hc] at h
  simpa using h

/-- Induction on a text word by word, the first one last. -/
theorem words_induction {motive : List Char → Prop} (blank : ∀ gap, Blank gap → motive gap)
    (word : ∀ gap w rest, Blank gap → IsWord w → Breaks rest → motive rest → motive (gap ++ w ++ rest))
    (cs : List Char) : motive cs := by
  induction hn : cs.length using Nat.strongRecOn generalizing cs with
  | ind n ih =>
    cases hfront : cs.dropWhile isBlank with
    | nil => exact blank cs (List.dropWhile_eq_nil_iff.mp hfront)
    | cons c r =>
      have hgap : Blank (cs.takeWhile isBlank) := fun c hc => List.mem_takeWhile_imp hc
      have hc : isBlank c = false := by
        have h := List.head?_dropWhile_not isBlank cs
        rwa [hfront] at h
      have hw : IsWord ((c :: r).takeWhile (!isBlank ·)) :=
        ⟨by simp [hc], fun c hc => by simpa using List.mem_takeWhile_imp hc⟩
      have hcs : cs.takeWhile isBlank ++ (c :: r).takeWhile (!isBlank ·) ++ (c :: r).dropWhile (!isBlank ·) = cs := by
        rw [List.append_assoc, List.takeWhile_append_dropWhile, ← hfront, List.takeWhile_append_dropWhile]
      -- the word takes at least one character
      have hshort : ((c :: r).dropWhile (!isBlank ·)).length < n := by
        rw [← hn, ← hcs, List.length_append, List.length_append]
        have hpos := List.length_pos_of_ne_nil hw.ne_nil
        omega
      rw [← hcs]
      exact word _ _ _ hgap hw (breaks_dropWhile _) (ih _ hshort _ rfl)

theorem exists_hasWords (cs : List Char) : ∃ ws, HasWords cs ws := by
  induction cs using words_induction with
  | blank gap hgap => exact ⟨[], by simp, ⟨fun _ => gap, fun _ => hgap, fun _ _ h => absurd h (Nat.not_lt_zero _)⟩, rfl⟩
  | word gap w rest hgap hw hbreaks ih =>
    obtain ⟨ws, hws, g, rfl⟩ := ih
    exact ⟨w :: ws, List.forall_mem_cons.mpr ⟨hw, hws⟩, g.cons gap hgap (gap_ne_nil_of_breaks hws hbreaks), rfl⟩

theorem words_eq_iff : words cs = ws ↔ HasWords cs ws := by
  constructor
  · rintro rfl
    obtain ⟨ws, hws, g, rfl⟩ := exists_hasWords cs
    rw [words_layOut hws g]
    exact ⟨hws, g, rfl⟩
  · rintro ⟨hws, g, rfl⟩
    exact words_layOut hws g

theorem words_intercalate (hws : ∀ w ∈ ws, IsWord w) : words ([' '].intercalate ws) = ws := by
  induction ws with
  | nil => rfl
  | cons w ws ih =>
    obtain ⟨hw, hws⟩ := List.forall_mem_cons.mp hws
    have hspace : Blank [' '] := List.forall_mem_singleton.mpr rfl
    cases ws with
    | nil =>
      have hend : Breaks [] := by simp [Breaks]
      simpa [words, pieces] using words_append_of_isWord hw hend
    | cons w' ws =>
      rw [List.intercalate_cons_cons, List.append_assoc,
        words_append_of_isWord hw (breaks_append_of_blank hspace (List.cons_ne_nil _ _) _),
        words_append_of_blank hspace, ih hws]

end BoostFeed.Text
