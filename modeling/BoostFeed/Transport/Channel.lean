import BoostFeed.Transport.Frame
import BoostFeed.Watch.Channel

/-! An open channel: bytes come in, and what they bring to the watcher and what is sent in answer go out. -/

namespace BoostFeed.Transport

open Watch

/-- A channel from its opening request on. -/
structure Channel where
  /-- Bytes that make no frame yet. -/
  bytes : List UInt8 := []
  opened : Bool := false
  /-- The parts of the message that is coming in, if it is a text. -/
  message : Option (List UInt8) := none
  closed : Bool := false

/-- What a channel gives. -/
structure Delivery where
  events : List LinkEvent := []
  send : List UInt8 := []

namespace Channel

/-- Closes the channel, of which the watcher is told. -/
def close (c : Channel) : Channel × Delivery := ({ c with closed := true }, { events := [.lost] })

/-- A part of a message. A message is text as its first part is. -/
def part (c : Channel) (f : Frame) : Channel × Delivery :=
  let before := match f.kind with
    | .text => some []
    | .continuation => c.message
    | _ => none
  let message := before.map (· ++ f.payload)
  if !f.final then ({ c with message }, {})
  else match message with
    | none => ({ c with message }, {})
    | some m =>
      match String.fromUTF8? m.toByteArray with
      | some text => ({ c with message := none }, { events := [.frame text] })
      | none => c.close

/-- A frame. A ping is answered with what it holds. -/
def frame (c : Channel) (f : Frame) : Channel × Delivery :=
  match f.kind with
  | .text | .binary | .continuation => c.part f
  | .pong => (c, {})
  | .ping => (c, { send := controlFrame .pong f.payload })
  | .close =>
    let (c, d) := c.close
    (c, { d with send := controlFrame .close f.payload })

/-- All complete frames. -/
def frames (c : Channel) : Nat → Channel × Delivery
  | 0 => (c, {})
  | fuel + 1 =>
    if c.closed then (c, {})
    else match readFrame c.bytes with
      | .incomplete => (c, {})
      | .broken => c.close
      | .frame f rest =>
        let (c, first) := frame { c with bytes := rest } f
        let (c, later) := c.frames fuel
        (c, ⟨first.events ++ later.events, first.send ++ later.send⟩)

/-- Bytes have come. The first are the answer to the opening request. -/
def receive (c : Channel) (bytes : List UInt8) : Channel × Delivery :=
  let c := { c with bytes := c.bytes ++ bytes }
  if c.opened then c.frames (c.bytes.length + 1)
  else match Head.read? c.bytes with
    | none => (c, {})
    | some (head, rest) =>
      if head.status = switching then
        let (c, d) := frames { c with bytes := rest, opened := true } (rest.length + 1)
        (c, { d with events := .opened :: d.events })
      else c.close

end Channel

end BoostFeed.Transport
