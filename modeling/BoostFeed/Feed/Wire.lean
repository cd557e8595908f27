import BoostFeed.Feed.Event
import BoostFeed.Json.Record

/-! The wire form of events: a record with the fields below in this order, each with a default. -/

namespace BoostFeed.Feed

open Json

namespace Payment

def fields : List Field :=
  ["payment_hash", "pubkey", "custom_key", "custom_value", "fee_msat", "reply_to_idx"]

def ofTree? (t : Tree) : Option Payment := do
  let r ← t.record? fields
  return {
    hash := ← r.field "payment_hash" "" Tree.text?
    pubkey := ← r.field "pubkey" "" Tree.text?
    customKey := ← r.optional "custom_key" Tree.uint64?
    customValue := ← r.optional "custom_value" Tree.text?
    feeMsat := ← r.field "fee_msat" 0 Tree.int64?
    replyTo := ← r.optional "reply_to_idx" Tree.uint64? }

def toTree (p : Payment) : Tree := .ofFields [
  ("payment_hash", .ofText p.hash),
  ("pubkey", .ofText p.pubkey),
  ("custom_key", .ofOption (fun n => .ofNat n.toNat) p.customKey),
  ("custom_value", .ofOption .ofText p.customValue),
  ("fee_msat", .ofInt p.feeMsat.toInt),
  ("reply_to_idx", .ofOption (fun n => .ofNat n.toNat) p.replyTo)]

end Payment

namespace NoteEffect

def fields : List Field := ["note", "velocity", "channel", "duration"]

def ofTree? (t : Tree) : Option NoteEffect := do
  let r ← t.record? fields
  return {
    note := ← r.optional "note" Tree.uint8?
    velocity := ← r.optional "velocity" Tree.uint8?
    channel := ← r.optional "channel" Tree.uint8?
    duration := ← r.optional "duration" Tree.uint64? }

def toTree (n : NoteEffect) : Tree := .ofFields [
  ("note", .ofOption (fun n => .ofNat n.toNat) n.note),
  ("velocity", .ofOption (fun n => .ofNat n.toNat) n.velocity),
  ("channel", .ofOption (fun n => .ofNat n.toNat) n.channel),
  ("duration", .ofOption (fun n => .ofNat n.toNat) n.duration)]

end NoteEffect

namespace SoundEffect

def fields : List Field := ["sound_file", "sound_name"]

def ofTree? (t : Tree) : Option SoundEffect := do
  let r ← t.record? fields
  return {
    file := ← r.field "sound_file" "" Tree.text?
    name := ← r.field "sound_name" "" Tree.text? }

def toTree (s : SoundEffect) : Tree := .ofFields [
  ("sound_file", .ofText s.file),
  ("sound_name", .ofText s.name)]

end SoundEffect

namespace Effect

def fields : List Field := ["midi", "sound"]

def ofTree? (t : Tree) : Option Effect := do
  let r ← t.record? fields
  return {
    note := ← r.optional "midi" NoteEffect.ofTree?
    sound := ← r.optional "sound" SoundEffect.ofTree? }

def toTree (e : Effect) : Tree := .ofFields [
  ("midi", .ofOption NoteEffect.toTree e.note),
  ("sound", .ofOption SoundEffect.toTree e.sound)]

end Effect

namespace Event

def fields : List Field :=
  ["index", "time", "value_msat", "value_msat_total", "action", "sender", "app", "message",
    "podcast", "episode", "tlv", "remote_podcast", "remote_episode", "reply_sent", "custom_key",
    "custom_value", "payment_info", "effects"]

def ofTree? (t : Tree) : Option Event := do
  let r ← t.record? fields
  return {
    index := ← r.field "index" 0 Tree.uint64?
    timestamp := ← r.field "time" 0 Tree.int64?
    valueMsat := ← r.field "value_msat" 0 Tree.int64?
    totalMsat := ← r.field "value_msat_total" 0 Tree.int64?
    action := Action.ofCode (← r.field "action" 0 Tree.uint8?)
    sender := ← r.field "sender" "" Tree.text?
    app := ← r.field "app" "" Tree.text?
    message := ← r.field "message" "" Tree.text?
    podcast := ← r.field "podcast" "" Tree.text?
    episode := ← r.field "episode" "" Tree.text?
    tlv := ← r.field "tlv" "" Tree.text?
    remotePodcast := ← r.optional "remote_podcast" Tree.text?
    remoteEpisode := ← r.optional "remote_episode" Tree.text?
    replySent := ← r.field "reply_sent" false Tree.bool?
    customKey := ← r.optional "custom_key" Tree.uint64?
    customValue := ← r.optional "custom_value" Tree.text?
    payment := ← r.optional "payment_info" Payment.ofTree?
    effects := ← r.field "effects" [] (Tree.list? Effect.ofTree?) }

def toTree (e : Event) : Tree := .ofFields [
  ("index", .ofNat e.index.toNat),
  ("time", .ofInt e.timestamp.toInt),
  ("value_msat", .ofInt e.valueMsat.toInt),
  ("value_msat_total", .ofInt e.totalMsat.toInt),
  ("action", .ofNat e.action.code.toNat),
  ("sender", .ofText e.sender),
  ("app", .ofText e.app),
  ("message", .ofText e.message),
  ("podcast", .ofText e.podcast),
  ("episode", .ofText e.episode),
  ("tlv", .ofText e.tlv),
  ("remote_podcast", .ofOption .ofText e.remotePodcast),
  ("remote_episode", .ofOption .ofText e.remoteEpisode),
  ("reply_sent", .bool e.replySent),
  ("custom_key", .ofOption (fun n => .ofNat n.toNat) e.customKey),
  ("custom_value", .ofOption .ofText e.customValue),
  ("payment_info", .ofOption Payment.toTree e.payment),
  ("effects", .ofList Effect.toTree e.effects)]

/-- The events of a page: an array of records. -/
def pageOfTree? : Tree → Option (List Event) := Tree.list? ofTree?

/-- The event a text writes. -/
def read? (s : String) : Option Event := (Tree.read? s).bind ofTree?

/-- The text of an event, all fields in order. -/
def print (e : Event) : String := e.toTree.print

end Event

end BoostFeed.Feed
