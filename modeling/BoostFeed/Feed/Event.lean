import BoostFeed.Feed.Action

/-! A payment event as the feed delivers it. Amounts are in millisatoshis; the index alone identifies
and orders events. -/

namespace BoostFeed.Feed

/-- Settlement details attached by the server. -/
structure Payment where
  hash : String := ""
  pubkey : String := ""
  customKey : Option UInt64 := none
  customValue : Option String := none
  feeMsat : Int64 := 0
  /-- For an outgoing reply, the event it answers. -/
  replyTo : Option UInt64 := none
deriving DecidableEq

/-- A note the server prepared for an event. -/
structure NoteEffect where
  note : Option UInt8 := none
  velocity : Option UInt8 := none
  channel : Option UInt8 := none
  duration : Option UInt64 := none
deriving DecidableEq

/-- A sound file the server prepared for an event. -/
structure SoundEffect where
  file : String := ""
  name : String := ""
deriving DecidableEq

/-- One playback request of the server. -/
structure Effect where
  note : Option NoteEffect := none
  sound : Option SoundEffect := none
deriving DecidableEq

/-- One payment. Every field has a default. -/
structure Event where
  index : UInt64 := 0
  timestamp : Int64 := 0
  /-- The portion actually received. -/
  valueMsat : Int64 := 0
  /-- The total with splits and fees. -/
  totalMsat : Int64 := 0
  action : Action := .unknown
  sender : String := ""
  app : String := ""
  message : String := ""
  podcast : String := ""
  episode : String := ""
  /-- The raw details of the payment, a JSON text. -/
  tlv : String := ""
  remotePodcast : Option String := none
  remoteEpisode : Option String := none
  replySent : Bool := false
  customKey : Option UInt64 := none
  customValue : Option String := none
  payment : Option Payment := none
  effects : List Effect := []
deriving DecidableEq, Inhabited

namespace Event

/-- Whole sats received. -/
def receivedSats (e : Event) : Int64 := e.valueMsat / 1000

/-- Whole sats of the total, or the sats received where the total has no whole sat. -/
def displaySats (e : Event) : Int64 :=
  if e.totalMsat / 1000 = 0 then e.receivedSats else e.totalMsat / 1000

/-- The amount that patterns are looked for in: whole sats, none below zero. -/
def amount (e : Event) : UInt64 := UInt64.ofNat e.displaySats.toInt.toNat

end Event

end BoostFeed.Feed
