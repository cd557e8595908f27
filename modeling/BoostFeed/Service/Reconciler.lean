import BoostFeed.Service.Client
import BoostFeed.Session.Apply

/-! The reconciler turns the answers of a server into a consistent timeline. A call runs until it needs an
answer, then waits; any number of calls may wait at once, and their answers may come in any order. -/

namespace BoostFeed

open Json Feed Playback

/-- One session with its server, queue and balance. -/
structure Reconciler where
  client : Client
  session : Session := {}
  queue : Queue := {}
  balance : BalanceTracker := {}

/-- What a poll asks for. -/
inductive PollMode where
  /-- The current index, then the priming page. -/
  | coldStart
  | forward
  | backfill
deriving DecidableEq

/-- The result of a call that may add events. -/
structure Outcome where
  effects : List ViewEffect := []
  triggersSubmitted : Nat := 0
  inserted : Nat := 0
  dropped : Nat := 0
deriving DecidableEq

/-- What a call waits for. -/
inductive Waiting where
  /-- The current index. -/
  | index
  /-- A page planned for a view, with the effects so far; a tick asks for the balance next. -/
  | page (view : View) (request : PageRequest) (effects : List ViewEffect) (thenBalance : Bool)
  /-- The balance at the end of a tick. -/
  | tickBalance (outcome : Outcome)
  | balance
  | reply (index : UInt64)

/-- What a finished call answers. -/
inductive Answer where
  | outcome (o : Outcome)
  | balance (b : Option Balance)
  | effects (es : List ViewEffect)

/-- A call after a step: finished, or waiting for the answer to a request. -/
inductive Progress where
  | finished (result : Except Failure Answer)
  | waiting (request : HttpRequest) (w : Waiting)

/-- What can be asked of a reconciler. -/
inductive Call where
  | poll (mode : PollMode)
  | tick
  | push (view : View) (events : List Event)
  | refreshBalance
  | reply (r : ReplyRequest)
  | switchView (view : View)

/-- The user asks for older history. -/
def Call.loadMore : Call := .poll .backfill

namespace Reconciler

/-- Ends a call with a failure. A denied access ends the session. -/
def fail (r : Reconciler) (f : Failure) : Reconciler × Progress :=
  match f with
  | .unauthorized =>
    ({ r with session := { r.session with authorized := false } }, .finished (.error .unauthorized))
  | f => (r, .finished (.error f))

/-- Waits for the answer to a request, if one could be built. -/
def send (r : Reconciler) (request : Except Failure HttpRequest) (w : Waiting) : Reconciler × Progress :=
  match request with
  | .ok request => (r, .waiting request w)
  | .error f => r.fail f

/-- Applies a page planned for a view and submits its triggers. A page for a view that is no longer
current is dropped. -/
def apply (r : Reconciler) (view : View) (request : PageRequest) (page : List Event) :
    Outcome × Reconciler :=
  if r.session.view ≠ view then ({}, r)
  else
    let (applied, session) := r.session.applyPage request page
    ({ effects := applied.effects
       triggersSubmitted := applied.triggers.length
       inserted := applied.inserted
       dropped := applied.dropped },
     { r with session, queue := r.queue.submitAll applied.triggers })

/-- Asks for a planned page. -/
def askPage (r : Reconciler) (request : PageRequest) (effects : List ViewEffect) (thenBalance : Bool) :
    Reconciler × Progress :=
  let view := r.session.view
  r.send (r.client.pageRequest view.feedPath request.query) (.page view request effects thenBalance)

/-- Asks for the current index of the view. -/
def askIndex (r : Reconciler) : Reconciler × Progress :=
  r.send (r.client.indexRequest r.session.view.indexPath) .index

/-- Asks for the balance. A request that cannot be built changes nothing. -/
def askBalance (r : Reconciler) (w : Waiting) (otherwise : Answer) : Reconciler × Progress :=
  match r.client.balanceRequest with
  | .ok request => (r, .waiting request w)
  | .error _ => (r, .finished (.ok otherwise))

/-- Plans the priming page from a reading of the current index, and asks for it. -/
def primeFrom (r : Reconciler) (raw : Value) : Reconciler × Progress :=
  let (request, effects, session) := r.session.planColdStart raw
  askPage { r with session } request effects false

def startPoll (r : Reconciler) : PollMode → Reconciler × Progress
  | .coldStart => r.askIndex
  | .forward => r.askPage r.session.planForward [] false
  | .backfill => r.askPage r.session.planBackfill [] false

/-- Records a balance that the server pushed. -/
def observeBalance (r : Reconciler) (raw : Value) : Option Balance × Reconciler :=
  let (b, balance) := r.balance.observe raw
  (b, { r with balance })

/-- Starts a call. Switching views resets the session first; every call but that fails at once after a
denied access, and switching does so after the reset. -/
def start (r : Reconciler) (c : Call) : Reconciler × Progress :=
  let r := match c with
    | .switchView view => { r with session := r.session.reset view }
    | _ => r
  if !r.session.authorized then (r, .finished (.error .unauthorized))
  else match c with
    | .poll mode => r.startPoll mode
    | .tick =>
      if r.session.store.isEmpty then r.askIndex else r.askPage r.session.planForward [] true
    | .push view events =>
      if r.session.view ≠ view then (r, .finished (.ok (.outcome {})))
      else
        let (outcome, r) := r.apply view r.session.planForward events
        (r, .finished (.ok (.outcome outcome)))
    | .refreshBalance => r.askBalance .balance (.balance none)
    | .reply request => r.send (r.client.replyRequest request) (.reply request.index)
    | .switchView _ => r.askIndex

/-- A reading of the balance endpoint: what the indicator shows anew, if anything. Only a denied access
is a failure. -/
def readBalance (r : Reconciler) (reply : Option HttpReply) : Except Failure (Option Balance × Reconciler) :=
  match HttpReply.interpret decodeValue reply with
  | .ok raw => .ok (r.observeBalance raw)
  | .error .unauthorized => .error .unauthorized
  | .error (.decode reason) =>
    let (b, balance) := r.balance.observeError reason
    .ok (b, { r with balance })
  | .error _ => .ok (none, r)

/-- What an answered reply does: a rejected one is told, a recorded one marks its event. -/
def recordReply (r : Reconciler) (index : UInt64) (a : ReplyAnswer) : List ViewEffect × Reconciler :=
  if !a.success then ([.replyFailed (a.message.getD "reply failed")], r)
  else
    let index := a.replyTo.getD index
    let (marked, session) := r.session.markReplied index
    (if marked then [.replyMarked index] else [], { r with session })

/-- Goes on with a call whose answer has come; no answer is a transport failure. -/
def resume (r : Reconciler) (w : Waiting) (reply : Option HttpReply) : Reconciler × Progress :=
  match w with
  | .index =>
    match HttpReply.interpret decodeValue reply with
    | .ok raw => r.primeFrom raw
    | .error (.decode reason) => r.primeFrom (.string reason)
    | .error f => r.fail f
  | .page view request effects thenBalance =>
    match HttpReply.interpret decodePage reply with
    | .error f => r.fail f
    | .ok page =>
      let (outcome, r) := r.apply view request page
      let outcome := { outcome with effects := effects ++ outcome.effects }
      if !thenBalance then (r, .finished (.ok (.outcome outcome)))
      else if !r.session.authorized then (r, .finished (.error .unauthorized))
      else r.askBalance (.tickBalance outcome) (.outcome outcome)
  | .tickBalance outcome =>
    match r.readBalance reply with
    | .error f => r.fail f
    | .ok (b, r) =>
      (r, .finished (.ok (.outcome
        { outcome with effects := outcome.effects ++ (b.map ViewEffect.balance).toList })))
  | .balance =>
    match r.readBalance reply with
    | .error f => r.fail f
    | .ok (b, r) => (r, .finished (.ok (.balance b)))
  | .reply index =>
    match HttpReply.interpret decodeReply reply with
    | .error f => r.fail f
    | .ok a =>
      let (effects, r) := r.recordReply index a
      (r, .finished (.ok (.effects effects)))

end Reconciler

end BoostFeed
