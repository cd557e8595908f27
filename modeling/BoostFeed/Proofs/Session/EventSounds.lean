import Mathlib.Data.List.Forall2
import BoostFeed.Proofs.Session.FirstPlay
import BoostFeed.Proofs.Session.PageOrder

/-! What plays for an event, beside the row that shows it. The server's playback requests play as they come. Where none
of them asks for anything, the sounds play that the annotation in the row names, or else the default sound. -/

namespace BoostFeed

open Feed Numerology Playback

namespace Feed

/-- The whole sats of an event, toward zero: of the total or, where that has none, of what was received. -/
def Event.wholeSats (e : Event) : Int :=
  if e.totalMsat.toInt.tdiv 1000 = 0 then e.valueMsat.toInt.tdiv 1000 else e.totalMsat.toInt.tdiv 1000

theorem Event.toInt_displaySats (e : Event) : e.displaySats.toInt = e.wholeSats := by
  have hdiv (x : Int64) : (x / 1000).toInt = x.toInt.tdiv 1000 := Int64.toInt_div_of_ne_right x 1000 (by decide)
  have hzero : e.totalMsat / 1000 = 0 ↔ e.totalMsat.toInt.tdiv 1000 = 0 := by
    rw [← hdiv, ← Int64.toInt_inj, Int64.toInt_zero]
  simp only [displaySats, receivedSats, wholeSats, hzero]
  split
  · exact hdiv _
  · exact hdiv _

/-- Less than nothing counts as nothing. -/
theorem Event.toNat_amount (e : Event) : (e.amount.toNat : Int) = max 0 e.wholeSats := by
  have hlt := e.displaySats.toInt_lt
  have hfits : e.displaySats.toInt.toNat < UInt64.size := by
    simp only [UInt64.size]
    omega
  rw [amount, UInt64.toNat_ofNat_of_lt' hfits, toInt_displaySats]
  omega

/-- Whether a playback request asks for anything: a note, or a sound that names a file. -/
def Effect.asks (f : Effect) : Bool := f.note.isSome || f.sound.any (·.file ≠ "")

/-- The playback requests that ask for anything. -/
def Event.requests (e : Event) : List Effect := e.effects.filter Effect.asks

/-- A part of a note is what was asked for, or the default where that is missing or zero. -/
def Filled {α : Type} [OfNat α 0] (asked : Option α) (default value : α) : Prop :=
  (asked = some value ∧ value ≠ 0) ∨ ((asked = none ∨ asked = some 0) ∧ value = default)

structure NoteEffect.AsksFor (n : NoteEffect) (c : NoteCue) : Prop where
  note : Filled n.note 60 c.note
  velocity : Filled n.velocity 100 c.velocity
  channel : Filled n.channel 1 c.channel
  duration : Filled n.duration 500 c.duration

/-- A sound without a name is named after its file. -/
structure SoundEffect.AsksFor (s : SoundEffect) (c : SoundCue) : Prop where
  file : c.file = s.file
  name : c.name = if s.name = "" then baseName s.file else s.name

/-- The cues that a playback request asks for. The note comes before the sound, and a sound without a file is none. -/
def Effect.AsksFor (f : Effect) (cues : List Cue) : Prop :=
  ∃ notes sounds, cues = notes.map Cue.note ++ sounds.map Cue.sound ∧
    List.Forall₂ NoteEffect.AsksFor f.note.toList notes ∧
    List.Forall₂ SoundEffect.AsksFor (f.sound.filter (·.file ≠ "")).toList sounds

theorem filled_orDefault {α : Type} [DecidableEq α] [OfNat α 0] (asked : Option α) (default : α) :
    Filled asked default (NoteCue.orDefault asked default) := by
  cases asked with
  | none => exact .inr ⟨.inl rfl, rfl⟩
  | some v =>
    by_cases hv : v = 0
    · exact .inr ⟨.inr (congrArg some hv), if_pos hv⟩
    · have hkept : NoteCue.orDefault (some v) default = v := if_neg hv
      exact .inl ⟨congrArg some hkept.symm, hkept.symm ▸ hv⟩

theorem Effect.asksFor_cues (f : Effect) : f.AsksFor f.cues := by
  refine ⟨f.note.toList.map fun n => .withDefaults n.note n.velocity n.channel n.duration,
    (f.sound.filter (·.file ≠ "")).toList.map fun s => if s.name = "" then .ofFile s.file else ⟨s.file, s.name⟩,
    ?cues, ?notes, ?sounds⟩
  case cues =>
    simp only [cues, Option.toList_map, List.map_map]
    congr 2
  case notes =>
    rw [List.forall₂_map_right_iff, List.forall₂_same]
    exact fun n _ => ⟨filled_orDefault _ _, filled_orDefault _ _, filled_orDefault _ _, filled_orDefault _ _⟩
  case sounds =>
    rw [List.forall₂_map_right_iff, List.forall₂_same]
    intro s _
    split
    next hname => exact ⟨rfl, (if_pos hname).symm⟩
    next hname => exact ⟨rfl, (if_neg hname).symm⟩

theorem Effect.isEmpty_cues (f : Effect) : f.cues.isEmpty = !f.asks := by
  obtain ⟨note, sound⟩ := f
  cases note with
  | some n => simp [cues, asks]
  | none =>
    cases sound with
    | none => rfl
    | some sound => by_cases hfile : sound.file = "" <;> simp [cues, asks, hfile]

end Feed

namespace Session

variable {s : Session} {e : Event} {row : Row} {t : Trigger}

theorem soundFiles_of_none {amount : UInt64} (h : (annotate s.rules amount).soundFiles = []) :
    s.soundFiles amount = s.settings.defaultSound.toList := by
  rw [soundFiles, h]

theorem soundFiles_of_some {amount : UInt64} (h : (annotate s.rules amount).soundFiles ≠ []) :
    s.soundFiles amount = (annotate s.rules amount).soundFiles := by
  unfold soundFiles
  split
  next hnone => exact absurd hnone h
  next => rfl

theorem triggersFor_eq (hplayback : s.settings.playback = true) (heffects : s.view.hasEffects = true) (e : Event) :
    s.triggersFor e =
      if e.requests ≠ [] then e.requests.map fun f => ⟨e.index, f.cues⟩
      else if s.soundFiles e.amount = [] then []
      else [⟨e.index, (s.soundFiles e.amount).map fun file => .sound (.ofFile file)⟩] := by
  -- the requests without cues are those that ask for nothing
  have hcues : (e.effects.map Effect.cues).filter (!·.isEmpty) = e.requests.map Effect.cues := by
    rw [List.filter_map]
    congr 2
    funext f
    simp [Effect.isEmpty_cues]
  rw [triggersFor, hplayback, heffects, hcues]
  cases e.requests with
  | nil => cases hfiles : s.soundFiles e.amount <;> simp
  | cons f fs => simp

/-- What plays for an event, told by the playback requests that it came with, its row and the default sound. -/
structure PlaysAsShown (s : Session) (e : Event) (row : Row) (ts : List Trigger) : Prop where
  /-- One trigger for each request that asks for anything, in their order. -/
  requested : e.requests ≠ [] → List.Forall₂ (fun f t => f.AsksFor t.cues) e.requests ts
  annotated : e.requests = [] → row.numerology.soundFiles ≠ [] →
    ts = [⟨e.index, row.numerology.soundFiles.map fun file => .sound (.ofFile file)⟩]
  default : e.requests = [] → row.numerology.soundFiles = [] →
    ∀ file, s.settings.defaultSound = some file → ts = [⟨e.index, [.sound (.ofFile file)]⟩]
  silent : e.requests = [] → row.numerology.soundFiles = [] → s.settings.defaultSound = none → ts = []
  /-- The annotation is that of the whole sats, none below zero. -/
  amount : ∃ amount : UInt64, (amount.toNat : Int) = max 0 e.wholeSats ∧ row.numerology = annotate s.rules amount
  whole : ∀ t ∈ ts, t.cues ≠ [] ∧ t.eventIndex = e.index

theorem playsAsShown_triggersFor (hplayback : s.settings.playback = true) (heffects : s.view.hasEffects = true)
    (hrow : row.numerology = annotate s.rules e.amount) : PlaysAsShown s e row (s.triggersFor e) := by
  have htriggers := triggersFor_eq hplayback heffects e
  refine
    { requested := fun hasked => ?requested
      annotated := fun hnone hfiles => ?annotated
      default := fun hnone hfiles file hfile => ?default
      silent := fun hnone hfiles hfile => ?silent
      amount := ⟨e.amount, e.toNat_amount, hrow⟩
      whole := fun t ht => ⟨cues_ne_nil_of_mem_triggersFor ht, eventIndex_of_mem_triggersFor ht⟩ }
  case requested =>
    rw [htriggers, if_pos hasked, List.forall₂_map_right_iff, List.forall₂_same]
    exact fun f _ => f.asksFor_cues
  case annotated =>
    rw [hrow] at hfiles ⊢
    rw [htriggers, if_neg (not_not_intro hnone), soundFiles_of_some hfiles, if_neg hfiles]
  case default =>
    rw [hrow] at hfiles
    rw [htriggers, if_neg (not_not_intro hnone), soundFiles_of_none hfiles, hfile]
    rfl
  case silent =>
    rw [hrow] at hfiles
    rw [htriggers, if_neg (not_not_intro hnone), soundFiles_of_none hfiles, hfile]
    rfl

theorem rows_eq_map_newEvents (s : Session) (r : PageRequest) (page : List Event) :
    (s.applyPage r page).1.effects.filterMap ViewEffect.row? = (s.newEvents page).map s.row := by
  rw [rows_applyPage, ← events_insertions, List.map_map]
  rfl

/-- A page plays only events whose rows it brings, and for each of them all that plays for it. -/
theorem exists_row_of_trigger {r : PageRequest} {page : List Event} (h : t ∈ (s.applyPage r page).1.triggers) :
    ∃ e ∈ page, s.row e ∈ (s.applyPage r page).1.effects.filterMap ViewEffect.row? ∧
      (s.applyPage r page).1.triggers.filter (·.eventIndex = t.eventIndex) = s.triggersFor e := by
  obtain ⟨e, -, ⟨_, _, hcall, he, hunknown, hstored⟩, -, hown⟩ :=
    Encounter.exists_inserted (n := ⟨s, .applyPage r page⟩) h
  cases hcall
  have hnew : e ∈ s.newEvents page := by
    rw [newEvents_eq_gained s r, List.mem_filter, Store.contains_eq_false_iff.mpr hunknown]
    exact ⟨hstored, rfl⟩
  refine ⟨e, he, ?_, hown⟩
  rw [rows_eq_map_newEvents]
  exact List.mem_map_of_mem hnew

/-- With playback on and in a view with effects, what plays for an event matches its row, whichever amount that shows.
So it does in a page: what this plays, it plays for events whose rows it brings, and as these rows show them. -/
theorem events_play_as_shown (s : Session) (hplayback : s.settings.playback = true)
    (heffects : s.view.hasEffects = true) :
    (∀ e showReceived, PlaysAsShown s e (Row.ofEvent e s.view s.rules s.apps showReceived) (s.triggersFor e)) ∧
    ∀ r page, let a := (s.applyPage r page).1
      ∀ t ∈ a.triggers, ∃ e ∈ page, s.row e ∈ a.effects.filterMap ViewEffect.row? ∧
        PlaysAsShown s e (s.row e) (a.triggers.filter (·.eventIndex = t.eventIndex)) := by
  refine ⟨fun e showReceived => playsAsShown_triggersFor hplayback heffects rfl, ?_⟩
  intro r page a t ht
  obtain ⟨e, he, hrow, hown⟩ := exists_row_of_trigger ht
  refine ⟨e, he, hrow, ?_⟩
  rw [hown]
  exact playsAsShown_triggersFor hplayback heffects rfl

/-- A sound without a file asks for nothing, and a total below one sat leaves the sats received to annotate. -/
theorem requests_and_annotation_play :
    let kiss : Rule := { BuiltIn.contains "Kisses" "💋" "69" with soundFile := some "/kiss.mp3" }
    let s : Session := { rules := [kiss] }
    let asked : Event :=
      { index := 7
        effects := [{ sound := some {} }, { note := some { velocity := some 7 }, sound := some { file := "/a/b.mp3" } },
          {}, { note := some { channel := some 0 } }] }
    let plain : Event := { index := 8, totalMsat := -999, valueMsat := 69420 }
    (s.settings.playback = true ∧ s.view.hasEffects = true) ∧
    PlaysAsShown s asked (Row.ofEvent asked s.view s.rules s.apps true) (s.triggersFor asked) ∧
    asked.requests.length = 2 ∧
    PlaysAsShown s plain (Row.ofEvent plain s.view s.rules s.apps false) (s.triggersFor plain) ∧
    plain.wholeSats = 69 ∧ s.triggersFor plain = [⟨8, [.sound (.ofFile "/kiss.mp3")]⟩] := by
  intro kiss s asked plain
  have hshown := (events_play_as_shown s rfl rfl).1
  have hfiles : (Row.ofEvent plain s.view s.rules s.apps false).numerology.soundFiles = ["/kiss.mp3"] := by
    decide +kernel
  refine ⟨⟨rfl, rfl⟩, hshown asked true, by decide, hshown plain false, by decide, ?_⟩
  rw [(hshown plain false).annotated rfl (by simp [hfiles]), hfiles]
  rfl

end Session

end BoostFeed
