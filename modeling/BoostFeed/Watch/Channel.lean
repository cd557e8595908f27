import BoostFeed.Watch.Desk
import BoostFeed.Service.PushFrame

/-! The push channel: it connects, takes frames until the connection is lost, and connects again after a
while. It ends with the session. -/

namespace BoostFeed.Watch

/-- Milliseconds from the loss of a connection to the next attempt. -/
def reconnectDelay : Nat := 5000

inductive Link where
  | connecting
  | connected
  /-- Until the next attempt. -/
  | waiting (due : Nat)
  | ended
deriving DecidableEq

/-- What a connection brings. -/
inductive LinkEvent where
  | opened
  /-- Refused, closed or broken. -/
  | lost
  | frame (text : String)

namespace Link

/-- Does what a frame asks for. A payment that finds the access denied ends the channel. -/
def receive (text : String) (d : Desk) : Desk × Link :=
  match PushFrame.parse text with
  | none => (d, .connected)
  | some (.balance raw) =>
    let (b, reconciler) := d.reconciler.observeBalance raw
    ({ d with reconciler, outlet := d.outlet.forward (.ok (.balance b)) }, .connected)
  | some (.payment view event) =>
    let step := d.reconciler.start (.push view [event])
    let goesOn := match step.2 with
      | .finished result => Outlet.goesOn result
      | .waiting _ _ => true
    ((d.proceed .feed step).1, if goesOn then .connected else .ended)

/-- Ends with the session. -/
def rest (l : Link) (d : Desk) : Link := if d.outlet.cancelled then .ended else l

/-- The clock has moved on. -/
def wake (l : Link) (d : Desk) : Link :=
  match l with
  | .waiting due => if d.now < due then l else .connecting
  | _ => l

def handle (l : Link) (d : Desk) (e : LinkEvent) : Desk × Link :=
  match l, e with
  | .connecting, .opened => (d, .connected)
  | .connecting, .lost | .connected, .lost => (d, .waiting (d.now + reconnectDelay))
  | .connected, .frame text => receive text d
  | _, _ => (d, l)

end Link

end BoostFeed.Watch
