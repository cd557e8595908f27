import BoostFeed.Watch.Desk
import BoostFeed.Watch.Ticker

/-! Periodic tasks. A tick that is under way is finished even if the session stops meanwhile; an idle task
then ends. -/

namespace BoostFeed.Watch

/-- What a task does at a tick. -/
inductive Duty where
  | call (c : Call)
  | refreshAges
  | startTrigger

structure Task where
  activity : Activity
  duty : Duty
  ticker : Ticker
  /-- The tick under way. -/
  errand : Option Errand := none
  ended : Bool := false

namespace Task

def perform (t : Task) (d : Desk) : Desk × Option Errand :=
  match t.duty with
  | .call c => d.start t.activity c
  | .refreshAges => ({ d with outlet := d.outlet.send [.refreshAges d.time] }, none)
  | .startTrigger =>
    ({ d with reconciler := { d.reconciler with queue := d.reconciler.queue.tick.2 } }, none)

/-- Ticks if idle and due. -/
def tick (t : Task) (d : Desk) : Desk × Task :=
  if t.ended ∨ t.errand.isSome ∨ d.outlet.cancelled then (d, t)
  else match t.ticker.tick? d.now with
    | none => (d, t)
    | some ticker =>
      let (d, errand) := t.perform d
      (d, { t with ticker, errand })

/-- The clock has moved on. -/
def wake (t : Task) (d : Desk) : Desk × Task :=
  match t.errand with
  | none => t.tick d
  | some e =>
    let (d, errand) := d.wake t.activity e
    { t with errand }.tick d

/-- The answer to a request has come. -/
def answer (t : Task) (d : Desk) (a : Activity) (reply : Option HttpReply) : Desk × Task :=
  match t.errand with
  | none => (d, t)
  | some e =>
    if t.activity = a then
      let (d, errand) := d.answer a e reply
      { t with errand }.tick d
    else (d, t)

/-- Ends if idle once the session stops. -/
def rest (t : Task) (d : Desk) : Task :=
  if t.errand.isNone ∧ d.outlet.cancelled then { t with ended := true } else t

/-- Lets one task after the other act. -/
def eachOf (act : Task → Desk → Desk × Task) (d : Desk) : List Task → Desk × List Task
  | [] => (d, [])
  | t :: ts =>
    let (d, t) := act t d
    let (d, ts) := eachOf act d ts
    (d, t :: ts)

end Task

/-- The tasks that poll: the feed, the balance and the ages shown. -/
def pollingTasks (now poll balance ages : Nat) : List Task := [
  { activity := .feed, duty := .call .tick, ticker := .start poll now },
  { activity := .balance, duty := .call .refreshBalance, ticker := .start balance now },
  { activity := .ages, duty := .refreshAges, ticker := .start ages now }]

/-- Tasks at one desk. -/
structure Poller where
  desk : Desk
  tasks : List Task := []

namespace Poller

/-- Ends the idle tasks if the session stops. -/
def rest (p : Poller) : Poller := { p with tasks := p.tasks.map (·.rest p.desk) }

def act (p : Poller) (f : Task → Desk → Desk × Task) : Poller :=
  let (desk, tasks) := Task.eachOf f p.desk p.tasks
  { p with desk, tasks }.rest

/-- Does what is due. -/
def wake (p : Poller) : Poller := p.act Task.wake

def advance (p : Poller) (ms : Nat) : Poller := { p with desk := { p.desk with now := p.desk.now + ms } }.wake

def answer (p : Poller) (a : Activity) (reply : Option HttpReply) : Poller :=
  p.act fun t d => t.answer d a reply

/-- Gives the sign to stop. -/
def cancel (p : Poller) : Poller :=
  { p with desk := { p.desk with outlet := p.desk.outlet.cancel } }.rest

/-- How many tasks have not ended. -/
def running (p : Poller) : Nat := (p.tasks.filter fun t => !t.ended).length

end Poller

end BoostFeed.Watch
