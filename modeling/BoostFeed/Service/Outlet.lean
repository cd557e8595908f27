import BoostFeed.Service.Reconciler

/-! The way of results to the renderer. All tasks of a session share one outlet and one sign to stop; a
denied access sends the user to log in, once, and gives the sign. Without a renderer the rest goes on. -/

namespace BoostFeed

/-- What the renderer receives. -/
inductive Update where
  | effect (e : ViewEffect)
  /-- The ages of rows are to be shown anew, at a time in seconds. -/
  | refreshAges (now : Int)
deriving DecidableEq

/-- Updates not yet rendered, oldest first, whether there is a renderer to take them, and whether the tasks are
to stop. -/
structure Outlet where
  updates : List Update := []
  attended : Bool := true
  cancelled : Bool := false
deriving DecidableEq

namespace Outlet

/-- What is sent when the renderer is gone is dropped. -/
def send (o : Outlet) (us : List Update) : Outlet :=
  if o.attended then { o with updates := o.updates ++ us } else o

def sendEffects (o : Outlet) (es : List ViewEffect) : Outlet := o.send (es.map .effect)

def cancel (o : Outlet) : Outlet := { o with cancelled := true }

/-- The renderer goes. -/
def abandon (o : Outlet) : Outlet := { o with attended := false }

/-- Forwards a failure. Only a denied access is shown, and only by the first task that meets it. -/
def failed (o : Outlet) (f : Failure) : Outlet :=
  match f with
  | .unauthorized => if o.cancelled then o else (o.sendEffects [.redirectToLogin]).cancel
  | _ => o

def answerEffects : Answer → List ViewEffect
  | .outcome outcome => outcome.effects
  | .balance b => (b.map ViewEffect.balance).toList
  | .effects es => es

/-- Forwards the result of a call. -/
def forward (o : Outlet) : Except Failure Answer → Outlet
  | .ok a => o.sendEffects (answerEffects a)
  | .error f => o.failed f

/-- Whether a task goes on after a result: not once access is denied. -/
def goesOn : Except Failure Answer → Bool
  | .error .unauthorized => false
  | _ => true

/-- Takes what is to be rendered. -/
def take (o : Outlet) : List Update × Outlet := (o.updates, { o with updates := [] })

end Outlet

end BoostFeed
