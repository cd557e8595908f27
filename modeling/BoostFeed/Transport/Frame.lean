import BoostFeed.Transport.Message

/-! The push protocol on the wire: the request that opens a channel, and the frames that follow. A server
sends its frames plain; those of a client are masked. -/

namespace BoostFeed.Transport

/-- What a frame is. -/
inductive FrameKind where
  | continuation
  | text
  | binary
  | close
  | ping
  | pong
deriving DecidableEq

namespace FrameKind

def code : FrameKind → Nat
  | .continuation => 0
  | .text => 1
  | .binary => 2
  | .close => 8
  | .ping => 9
  | .pong => 10

def ofCode? (n : Nat) : Option FrameKind :=
  [.continuation, .text, .binary, .close, .ping, .pong].find? (·.code == n)

end FrameKind

structure Frame where
  kind : FrameKind
  /-- The last part of its message. -/
  final : Bool := true
  payload : List UInt8
deriving DecidableEq

/-- A number by its bytes, the highest first. -/
def number (bytes : List UInt8) : Nat := bytes.foldl (fun n b => 256 * n + b.toNat) 0

/-- What the bytes received so far are. -/
inductive Reading where
  | incomplete
  /-- No frame of a server. -/
  | broken
  | frame (f : Frame) (rest : List UInt8)

/-- The length behind the first two bytes of a frame, and what follows it. -/
def payloadLength? (short : Nat) (bytes : List UInt8) : Option (Nat × List UInt8) :=
  let width := if short < 126 then 0 else if short = 126 then 2 else 8
  if bytes.length < width then none
  else some (if width = 0 then short else number (bytes.take width), bytes.drop width)

/-- Reads the frame in front. -/
def readFrame : List UInt8 → Reading
  | a :: b :: rest =>
    match FrameKind.ofCode? (a.toNat % 16) with
    | none => .broken
    | some kind =>
      if 128 ≤ b.toNat then .broken
      else match payloadLength? (b.toNat % 128) rest with
        | none => .incomplete
        | some (length, rest) =>
          if rest.length < length then .incomplete
          else .frame ⟨kind, 128 ≤ a.toNat, rest.take length⟩ (rest.drop length)
  | _ => .incomplete

/-- A frame about the channel itself as a client sends it, under a mask of zeros. Its payload is short. -/
def controlFrame (kind : FrameKind) (payload : List UInt8) : List UInt8 :=
  let payload := payload.take 125
  [UInt8.ofNat (128 + kind.code), UInt8.ofNat (128 + payload.length), 0, 0, 0, 0] ++ payload

/-- The key of a client. The channel is no secret, so the key need not be one. -/
def channelKey : String := "AAAAAAAAAAAAAAAAAAAAAA=="

/-- The request that opens a channel. -/
def openingText (agent : String) (a : Address) : String :=
  "GET " ++ a.target ++ " HTTP/1.1" ++ lineEnd ++
    String.join ([("host", serverName a), ("user-agent", agent), ("connection", "upgrade"),
      ("upgrade", "websocket"), ("sec-websocket-version", "13"),
      ("sec-websocket-key", channelKey)].map headerLine) ++ lineEnd

/-- The status that opens a channel. -/
def switching : Nat := 101

end BoostFeed.Transport
