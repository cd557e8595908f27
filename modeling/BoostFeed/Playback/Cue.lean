import BoostFeed.Number.Digits
import BoostFeed.Number.Single

/-! What is played for an event. A trigger bundles the cues that start together; a cue is a sound file or
a note. -/

namespace BoostFeed.Playback

open BoostFeed.Number (Single roundDiv)

/-- A sound file, played to its end. -/
structure SoundCue where
  /-- A path relative to the server, or an absolute address. -/
  file : String
  name : String
deriving DecidableEq

/-- What follows the last slash. -/
def baseName (file : String) : String :=
  String.ofList (file.toList.reverse.takeWhile (· ≠ '/')).reverse

/-- The cue of a file, named after it. -/
def SoundCue.ofFile (file : String) : SoundCue := ⟨file, baseName file⟩

/-- A note; the duration is in milliseconds. -/
structure NoteCue where
  note : UInt8 := 60
  velocity : UInt8 := 100
  channel : UInt8 := 1
  duration : UInt64 := 500
deriving DecidableEq

namespace NoteCue

/-- A value, or the default where it is missing or zero. -/
def orDefault {α : Type} [DecidableEq α] [OfNat α 0] (value : Option α) (default : α) : α :=
  match value with
  | some v => if v = 0 then default else v
  | none => default

/-- A note with defaults for what is missing or zero. -/
def withDefaults (note velocity channel : Option UInt8) (duration : Option UInt64) : NoteCue where
  note := orDefault note 60
  velocity := orDefault velocity 100
  channel := orDefault channel 1
  duration := orDefault duration 500

/-- How many octaves the note lies above the A of 440 hertz, note 69, in single precision and in units of
`2^(-27)`: a twelfth each, which has no binary place beyond these. -/
def octaves (c : NoteCue) : Int :=
  let steps : Int := (c.note.toNat : Int) - 69
  let (n, d) := (Single.ofQuotient steps.natAbs 12).magnitude
  let units : Int := (n * 134217728 / d : Nat)
  if steps < 0 then -units else units

/-- The frequency in hertz, which doubles with every octave. -/
def frequency (c : NoteCue) : Single :=
  let (n, d) := (Single.twoToPower c.octaves).magnitude
  .ofQuotient (440 * n) d

/-- Five significant digits of the frequency, a tie to the even digit, and the power of ten of the first. -/
def frequencyDigits (c : NoteCue) : Nat × Nat :=
  let (n, d) := c.frequency.magnitude
  let power := (Text.digitsOf (n / d)).length - 1
  let digits := roundDiv (10000 * n) (Nat.pow 10 power * d)
  if digits = 100000 then (10000, power + 1) else (digits, power)

/-- The frequency in scientific notation with four places. -/
def frequencyText (c : NoteCue) : String :=
  let (digits, power) := c.frequencyDigits
  match Text.digitsOf digits with
  | first :: places => String.ofList (first :: '.' :: places ++ 'e' :: Text.digitsOf power)
  | [] => ""

end NoteCue

/-- One thing to play. -/
inductive Cue where
  | sound (s : SoundCue)
  | note (n : NoteCue)
deriving DecidableEq

/-- The cues to start together for one event. -/
structure Trigger where
  eventIndex : UInt64
  cues : List Cue
deriving DecidableEq

end BoostFeed.Playback
