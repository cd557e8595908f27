import BoostFeed.Watch.Flight
import BoostFeed.Service.Outlet

/-! What the activities of a watcher share: the clock, the session, the way to the renderer, and the outbox of
requests. A call is carried on from answer to answer and its result forwarded. -/

namespace BoostFeed.Watch

/-- The activities that run side by side. -/
inductive Activity where
  | loading
  | feed
  | balance
  | ages
  | triggers
  | command
deriving DecidableEq

/-- A request on its way out, and who waits for its answer. -/
structure Letter where
  sender : Activity
  request : HttpRequest

/-- A call that waits for an answer. -/
structure Errand where
  waiting : Waiting
  flight : Flight

structure Desk where
  /-- Milliseconds since the start. -/
  now : Nat := 0
  /-- The time of the start in seconds since 1970. -/
  epoch : Int := 0
  patience : Patience
  reconciler : Reconciler
  outlet : Outlet := {}
  /-- Requests that have yet to leave, oldest first. -/
  outbox : List Letter := []

namespace Desk

/-- The time in seconds since 1970. -/
def time (d : Desk) : Int := d.epoch + d.now / 1000

def post (d : Desk) (a : Activity) (request : HttpRequest) : Desk :=
  { d with outbox := d.outbox ++ [⟨a, request⟩] }

/-- Takes the requests that leave. -/
def takeOutbox (d : Desk) : List Letter × Desk := (d.outbox, { d with outbox := [] })

/-- Carries on a call after a step of the reconciler. -/
def proceed (d : Desk) (a : Activity) (step : Reconciler × Progress) : Desk × Option Errand :=
  let d := { d with reconciler := step.1 }
  match step.2 with
  | .finished result => ({ d with outlet := d.outlet.forward result }, none)
  | .waiting request waiting =>
    (d.post a request, some ⟨waiting, .depart d.patience request d.now⟩)

def start (d : Desk) (a : Activity) (c : Call) : Desk × Option Errand :=
  d.proceed a (d.reconciler.start c)

/-- Carries on an errand after a step of its flight. -/
def follow (d : Desk) (a : Activity) (e : Errand) : Course → Desk × Option Errand
  | .waits flight => (d, some { e with flight })
  | .leaves flight => (d.post a flight.request, some { e with flight })
  | .ends reply => d.proceed a (d.reconciler.resume e.waiting reply)

def wake (d : Desk) (a : Activity) (e : Errand) : Desk × Option Errand :=
  d.follow a e (e.flight.wake d.patience d.now)

def answer (d : Desk) (a : Activity) (e : Errand) (reply : Option HttpReply) : Desk × Option Errand :=
  d.follow a e (e.flight.answer d.now reply)

end Desk

end BoostFeed.Watch
