import BoostFeed.Playback.Cue
import BoostFeed.Json.Record

/-! The JSON form of cues and triggers, for a player in another process. -/

namespace BoostFeed.Playback

open Json

def NoteCue.fields (n : NoteCue) : List (String × Tree) := [
  ("note", .ofNat n.note.toNat), ("velocity", .ofNat n.velocity.toNat),
  ("channel", .ofNat n.channel.toNat), ("duration_ms", .ofNat n.duration.toNat)]

def Cue.toTree : Cue → Tree
  | .sound s => .ofFields [("sound", .ofFields [("file", .ofText s.file), ("name", .ofText s.name)])]
  | .note n => .ofFields [("midi", .ofFields n.fields)]

def Trigger.toTree (t : Trigger) : Tree :=
  .ofFields [("event_index", .ofNat t.eventIndex.toNat), ("cues", .ofList Cue.toTree t.cues)]

end BoostFeed.Playback
