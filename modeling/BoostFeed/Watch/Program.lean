import BoostFeed.Watch.Task
import BoostFeed.Watch.Channel
import BoostFeed.Service.Collaborators
import BoostFeed.Setup.Resolve
import BoostFeed.Playback.Stage
import BoostFeed.Terminal.Console
import BoostFeed.Terminal.Command
import BoostFeed.Terminal.Input

/-! The watcher: it loads rules and apps, polls and listens, shows what comes, and works off the commands
typed, one after the other. Once told to stop it waits for what is under way, but not for long. -/

namespace BoostFeed.Watch

open Terminal Playback

inductive Phase where
  | loading (l : Loading) (flight : Flight)
  | watching
  | ended

structure Program where
  setup : Setup
  phase : Phase := .ended
  poller : Poller
  link : Option Link := none
  /-- The command under way. -/
  errand : Option Errand := none
  input : Input := {}
  console : Console := {}
  /-- When the trigger that plays ends. -/
  silence : Option Nat := none
  /-- When a stopping watcher gives up waiting. -/
  deadline : Option Nat := none
  /-- Lines printed and not yet taken. -/
  output : List String := []
  errors : List String := []

namespace Program

/-- Milliseconds that a stopping watcher waits for what is under way. -/
def patienceAtEnd : Nat := 10000

def desk (p : Program) : Desk := p.poller.desk

def setDesk (p : Program) (d : Desk) : Program := { p with poller := { p.poller with desk := d } }

def now (p : Program) : Nat := p.desk.now

def isRunning (p : Program) : Bool :=
  match p.phase with
  | .ended => false
  | _ => true

def isWatching (p : Program) : Bool :=
  match p.phase with
  | .watching => true
  | _ => false

def print (p : Program) (lines : List String) : Program := { p with output := p.output ++ lines }

/-- Shows updates on the console. -/
def showAll (p : Program) : List Update → Program
  | [] => p
  | .effect e :: us =>
    let (lines, console) := p.console.apply p.desk.time e
    ({ p with console }.print lines).showAll us
  | .refreshAges now :: us => (p.print (p.console.refreshAges now)).showAll us

/-- Shows what has been forwarded. -/
def render (p : Program) : Program :=
  let (updates, outlet) := p.desk.outlet.take
  (p.setDesk { p.desk with outlet }).showAll updates

/-- Says goodbye and ends. Requests that have not left stay. -/
def finish (p : Program) : Program :=
  { (p.setDesk { p.desk with outbox := [] }).print ["Bye!"] with phase := .ended }

/-- The player holds what has started, and the queue learns when it has ended. -/
def play (p : Program) : Program :=
  let setQueue := fun (queue : Queue) =>
    p.setDesk { p.desk with reconciler := { p.desk.reconciler with queue } }
  let player := Player.silent defaultSoundHold
  match p.desk.reconciler.queue.take with
  | ([], queue) =>
    match p.silence with
    | some stop => if p.now < stop then p else { setQueue queue.finish with silence := none }
    | none => p
  | (started, queue) =>
    let holds := (started.flatMap Trigger.cues).filterMap player.hold
    { setQueue queue with silence := some (p.now + holds.foldl max 0) }

/-- Gives the sign to stop. -/
def stop (p : Program) : Program := { p with poller := p.poller.cancel }

/-- Starts a command that may have to wait. -/
def command (p : Program) (c : Call) : Program :=
  let (desk, errand) := p.desk.start .command c
  { p.setDesk desk with errand }

/-- Does what a line says. -/
def runLine (p : Program) (line : String) : Program :=
  match Command.parse line with
  | .error .empty => p
  | .error e => p.print [e.message]
  | .ok .help => p.print [helpText]
  | .ok .quit => p.stop
  | .ok .more => p.command .loadMore
  | .ok (.view v) => p.command (.switchView v)
  | .ok (.reply index sats message) => p.command (.reply { index, sats, message })

/-- Whether the next line can be worked off. -/
def attends (p : Program) : Bool := p.isWatching && p.errand.isNone && !p.desk.outlet.cancelled

/-- Works off lines until one has to wait. What they print goes ahead of the updates they send. -/
def workOff (p : Program) : List String → Program
  | [] => { p with input := { p.input with lines := [] } }
  | line :: lines =>
    if p.attends then (p.runLine line).workOff lines
    else { p with input := { p.input with lines := line :: lines } }

/-- Whether nothing is under way. -/
def isQuiet (p : Program) : Bool := p.isWatching && p.poller.running = 0 && p.errand.isNone

/-- Ends a stopping watcher if nothing is under way, or if it has waited long enough. -/
def conclude (p : Program) : Program :=
  match p.deadline with
  | none => p
  | some deadline =>
    if p.isRunning && (p.isQuiet || deadline ≤ p.now) then p.finish else p

/-- Does all that can be done before time passes or something comes. -/
def settle (p : Program) : Program :=
  let p := (p.workOff p.input.lines).render
  let p := { p with
    poller := p.poller.rest
    link := p.link.map (Link.rest · p.desk)
    deadline := if p.desk.outlet.cancelled then p.deadline <|> some (p.now + patienceAtEnd) else p.deadline }
  p.play.conclude

/-- The push endpoint: the one named, or the one on the server. -/
def pushAddress (setup : Setup) : Except Address.AddressError Address :=
  match setup.wsUrl with
  | some a => .ok a
  | none => setup.baseUrl.pushAddress

/-- Where the push channel starts, if there is one. -/
def firstLink (setup : Setup) : Except Address.AddressError (Option Link) :=
  if setup.websocket then (pushAddress setup).map fun _ => some .connecting else .ok none

def tasks (setup : Setup) (now : Nat) : List Task :=
  { activity := .triggers, duty := .startTrigger, ticker := .start setup.triggerTickMs.toNat now } ::
    pollingTasks now (1000 * setup.pollIntervalSecs.toNat) (1000 * setup.balanceIntervalSecs.toNat)
      (1000 * Setup.ageRefreshSecs)

/-- Begins to watch. A watcher told to stop while it loaded stops at once. -/
def watch (p : Program) (c : Collaborators) : Program :=
  let session := { view := p.setup.view, settings := p.setup.session, rules := c.rules, apps := c.apps }
  let p := p.setDesk { p.desk with reconciler := { p.desk.reconciler with session } }
  match firstLink p.setup with
  | .error e => { p with errors := p.errors ++ ["Error: deriving push channel URL: " ++ e.message] }.finish
  | .ok link =>
    let p := p.print ["Watching " ++ p.setup.view.name ++ " on " ++ p.setup.baseUrl.print ++ ". " ++ helpText]
    let p := { p with phase := .watching, link, poller := { p.poller with tasks := tasks p.setup p.now } }
    if p.deadline.isSome then p.stop else { p with poller := p.poller.wake }

/-- Goes on loading. A denied access ends the program. -/
def load (p : Program) : LoadStep → Program
  | .waiting request l =>
    { p.setDesk (p.desk.post .loading request) with
      phase := .loading l (.depart p.desk.patience request p.now) }
  | .finished (.ok c) => p.watch c
  | .finished (.error _) => (p.showAll [.effect .redirectToLogin]).finish

/-- Goes on loading after a step of the flight. -/
def follow (p : Program) (l : Loading) : Course → Program
  | .waits flight => { p with phase := .loading l flight }
  | .leaves flight =>
    { p.setDesk (p.desk.post .loading flight.request) with phase := .loading l flight }
  | .ends reply => p.load (Collaborators.resume p.desk.reconciler.client l reply)

/-- Starts the program. -/
def start (setup : Setup) (epoch : Int) (colors : Bool) : Program :=
  let client := Client.ofAddress setup.baseUrl setup.authToken
  let desk : Desk := {
    epoch
    patience := { timeout := 1000 * setup.requestTimeoutSecs.toNat, retries := setup.maxRetries.toNat }
    reconciler := { client } }
  let p : Program := { setup, poller := { desk }, console := { colors } }
  (p.load (Collaborators.start client)).settle

/-- Follows up the command under way. -/
def setCommand (p : Program) (step : Desk × Option Errand) : Program :=
  { p.setDesk step.1 with errand := step.2 }

/-- Lets so many milliseconds pass. -/
def advance (p : Program) (ms : Nat) : Program :=
  let p := (p.setDesk { p.desk with now := p.now + ms }).play
  match p.phase with
  | .ended => p
  | .loading l flight => (p.follow l (flight.wake p.desk.patience p.now)).settle
  | .watching =>
    let p := { p with poller := p.poller.wake, link := p.link.map (Link.wake · p.desk) }
    (match p.errand with
      | some e => p.setCommand (p.desk.wake .command e)
      | none => p).settle

/-- The answer to a request has come. -/
def answer (p : Program) (a : Activity) (reply : Option HttpReply) : Program :=
  match p.phase with
  | .ended => p
  | .loading l flight => (p.follow l (flight.answer p.now reply)).settle
  | .watching =>
    (match a, p.errand with
      | .command, some e => p.setCommand (p.desk.answer .command e reply)
      | .command, none => p
      | a, _ => { p with poller := p.poller.answer a reply }).settle

/-- Something was typed. -/
def type (p : Program) (bytes : List UInt8) : Program := { p with input := p.input.bytes bytes }.settle

/-- Standard input ends. -/
def endInput (p : Program) : Program := { p with input := p.input.finish }.settle

/-- The user or the system asks the program to end. -/
def terminate (p : Program) : Program :=
  let p := { p with deadline := p.deadline <|> some (p.now + patienceAtEnd) }
  (if p.isWatching then p.stop else p).settle

/-- Something happens on the push channel. -/
def handleLink (p : Program) (e : LinkEvent) : Program :=
  match p.phase, p.link with
  | .watching, some link =>
    let (desk, link) := link.handle p.desk e
    { p.setDesk desk with link }.settle
  | _, _ => p

/-- Takes the requests that leave. -/
def takeOutbox (p : Program) : List Letter × Program :=
  let (letters, desk) := p.desk.takeOutbox
  (letters, p.setDesk desk)

/-- Takes the lines printed, to standard output and to standard error. -/
def takePrinted (p : Program) : List String × List String × Program :=
  (p.output, p.errors, { p with output := [], errors := [] })

end Program

end BoostFeed.Watch
