import BoostFeed.Transport.Channel
import Std.Async.DNS
import Std.Async.TCP

/-! Connections of the network. Requests and push channels go over plain connections; an address that asks
for a secured one cannot be reached. -/

namespace BoostFeed.Transport

open Std Std.Async Std.Net Address Watch

/-- How much is taken from a connection at once. -/
def portion : UInt64 := 65536

/-- The numbers under which a host is found. -/
def numbersOf (h : Host) : Async (Array IPAddr) :=
  match h with
  | .domain name => DNS.getAddrInfo name ""
  | .ipv4 _ => pure ((IPv4Addr.ofString h.print).map IPAddr.v4).toArray
  | .ipv6 groups =>
    pure ((IPv6Addr.ofString (":".intercalate (groups.map Host.hexText))).map IPAddr.v6).toArray

def socketAddress (number : IPAddr) (port : UInt16) : SocketAddress :=
  match number with
  | .v4 addr => .v4 ⟨addr, port⟩
  | .v6 addr => .v6 ⟨addr, port⟩

/-- Tries one number after the other. -/
def connectFirst (port : UInt16) : List IPAddr → Async TCP.Socket.Client
  | [] => throw (IO.userError "no connection")
  | number :: others => do
    try
      let client ← TCP.Socket.Client.mk
      client.connect (socketAddress number port)
      return client
    catch _ => connectFirst port others

/-- Connects to the server of an address. -/
def connect (a : Address) : Async TCP.Socket.Client := do
  match a.host, a.port <|> usualPort a.scheme with
  | some host, some port => connectFirst (UInt16.ofNat port) (← numbersOf host).toList
  | _, _ => throw (IO.userError "no server")

/-- All that comes until the connection closes. -/
partial def readAll (client : TCP.Socket.Client) (before : ByteArray) : Async ByteArray := do
  match ← client.recv? portion with
  | some bytes => readAll client (before ++ bytes)
  | none => return before

/-- Sends a request and waits for its answer; none comes if the connection fails. -/
def exchange (agent : String) (r : HttpRequest) : Async (Option HttpReply) := do
  if r.address.scheme = "http" ∧ r.canLeave then
    try
      let client ← connect r.address
      client.send (requestText agent r).toUTF8
      return replyOf? (← readAll client .empty).toList
    catch _ => return none
  else return none

/-- Takes what a channel brings until it closes. -/
partial def listen (client : TCP.Socket.Client) (events : IO.Ref (List LinkEvent)) (c : Channel) :
    Async Unit := do
  match ← client.recv? portion with
  | none => throw (IO.userError "connection closed")
  | some bytes =>
    let (c, delivery) := c.receive bytes.toList
    events.modify (· ++ delivery.events)
    if !delivery.send.isEmpty then client.send delivery.send.toByteArray
    if !c.closed then listen client events c

/-- Opens a push channel and notes what it brings; the last is that it is lost. -/
def openChannel (agent : String) (a : Address) (events : IO.Ref (List LinkEvent)) : Async Unit := do
  if a.scheme = "ws" then
    try
      let client ← connect a
      client.send (openingText agent a).toUTF8
      listen client events {}
    catch _ => events.modify (· ++ [.lost])
  else events.modify (· ++ [.lost])

end BoostFeed.Transport
