import BoostFeed.Transport.Network
import BoostFeed.Watch.Launch
import Std.Async.Signal
import Std.Time.DateTime.Timestamp

/-! The program on a real clock, with files, network and terminal. It decides nothing: it hands over what
comes and carries out what it is told. -/

namespace BoostFeed.Terminal

open Std.Async Watch Transport Logging

/-- Milliseconds between two looks at what has come. -/
def pause : UInt32 := 20

def printAll (stream : IO.FS.Stream) (lines : List String) : IO Unit := do
  for line in lines do stream.putStrLn line
  if !lines.isEmpty then stream.flush

/-- The text of a file that can be read. -/
def readText? (path : String) : IO (Option String) := do
  try return some (← IO.FS.readFile path) catch _ => return none

/-- The text of a file in the working directory or the nearest one around it. -/
def readAround? (name : String) : Nat → IO (Option String)
  | 0 => return none
  | n + 1 => do
    match ← readText? name with
    | some text => return some text
    | none => readAround? ("../" ++ name) n

/-- How many directories lie around the working directory, itself included. -/
def directoryDepth : IO Nat := do
  return ((← IO.currentDir).toString.splitOn "/").length

/-- The variables with these names that are set. -/
def variablesNamed (names : List String) : IO Variables :=
  names.filterMapM fun name => return (← IO.getEnv name).map fun value => (name, value)

/-- Reads the variables and files that a launch looks at, until no new files are named. -/
def surroundings (args : List String) : IO Surroundings := do
  let envText ← readAround? Surroundings.envFile (← directoryDepth)
  let environment ← variablesNamed (Launch.variableNames (envText.getD ""))
  let mut known := [(Surroundings.envFile, envText)]
  for _ in [0:3] do
    let file? := fun path => (known.lookup path).join
    for path in Launch.files { environment, file? } args do
      if (known.lookup path).isNone then
        known := (path, ← readText? path) :: known
  let files := known
  return { environment, file? := fun path => (files.lookup path).join }

/-- Writes a record into the file of its day. -/
def log (o : LogOptions) (f : Filter) (r : Record) : IO Unit := do
  if f.passes r then
    let seconds := (← Std.Time.Timestamp.now).toSecondsSinceUnixEpoch.val
    try
      IO.FS.createDirAll o.logDir
      let file ← IO.FS.Handle.mk (o.logDir ++ "/" ++ o.fileName (dayText seconds)) .append
      file.putStrLn (r.line seconds)
    catch _ => return

/-- The bytes of standard input up to the next line break or the end. -/
partial def readLine (stream : IO.FS.Stream) (before : ByteArray) : IO ByteArray := do
  let bytes ← stream.read 1
  let line := before ++ bytes
  if bytes.isEmpty ∨ bytes.toList = [Input.newline] then return line
  readLine stream line

/-- A request on its way. -/
structure Exchange where
  sender : Activity
  /-- When its answer is no longer waited for. -/
  due : Nat
  reply : Task (Except IO.Error (Option HttpReply))

/-- What surrounds a running program. -/
structure Session where
  input : IO.FS.Stream
  /-- The line that is being typed. -/
  typing : Option (Task (Except IO.Error ByteArray)) := none
  inputEnded : Bool := false
  /-- Calls to stop. -/
  signals : List (Task (Except IO.Error Int))
  events : IO.Ref (List LinkEvent)
  exchanges : List Exchange := []
  /-- The clock in milliseconds when the program was told last. -/
  clock : Nat

/-- Lets the program know what was typed. The next line is read once it may be worked off. -/
def takeInput (s : Session) (p : Program) : IO (Session × Program) := do
  match s.typing with
  | none =>
    if s.inputEnded ∨ !p.attends then return (s, p)
    let typing ← IO.asTask (readLine s.input .empty) .dedicated
    return ({ s with typing }, p)
  | some line =>
    if !(← IO.hasFinished line) then return (s, p)
    let s := { s with typing := none }
    match ← IO.wait line with
    | .error _ => return ({ s with inputEnded := true }, p.endInput)
    | .ok bytes =>
      let p := p.type bytes.toList
      if bytes.toList.getLast? = some Input.newline then return (s, p)
      return ({ s with inputEnded := true }, p.endInput)

/-- Hands over the answers that came in time. -/
def takeReplies (p : Program) : List Exchange → IO (List Exchange × Program)
  | [] => return ([], p)
  | e :: es => do
    if e.due ≤ p.now then takeReplies p es
    else if ← IO.hasFinished e.reply then
      let reply := match ← IO.wait e.reply with
        | .ok reply => reply
        | .error _ => none
      takeReplies (p.answer e.sender reply) es
    else
      let (es, p) ← takeReplies p es
      return (e :: es, p)

/-- Sends the requests that leave. -/
def sendRequests (p : Program) : IO (List Exchange × Program) := do
  let (letters, p) := p.takeOutbox
  let exchanges ← letters.mapM fun l => do
    let reply ← (exchange Setup.userAgent l.request).toIO
    return { sender := l.sender, due := p.now + p.desk.patience.timeout, reply }
  return (exchanges, p)

/-- Hands over what the push channel brought, and opens it where that is asked for. -/
def takeEvents (s : Session) (p : Program) : IO Program := do
  let events ← s.events.modifyGet fun events => (events, [])
  return events.foldl Program.handleLink p

/-- Opens the push channel if the program is to connect. -/
def openLink (s : Session) (before : Option Link) (p : Program) : IO Unit := do
  if p.link = some .connecting ∧ before ≠ some .connecting then
    match Program.pushAddress p.setup with
    | .ok a => let _ ← (openChannel Setup.userAgent a s.events).toIO
    | .error _ => s.events.modify (· ++ [.lost])

/-- Takes the calls to stop. -/
def takeSignals (s : Session) (p : Program) : IO (Session × Program) := do
  let came ← s.signals.filterM fun t => IO.hasFinished t
  if came.isEmpty then return (s, p)
  let signals ← s.signals.filterM fun t => return !(← IO.hasFinished t)
  return ({ s with signals }, p.terminate)

/-- Runs the program to its end. -/
partial def run (s : Session) (p : Program) (before : Option Link) : IO Unit := do
  openLink s before p
  let before := p.link
  let (sent, p) ← sendRequests p
  let (output, errors, p) := p.takePrinted
  printAll (← IO.getStdout) output
  printAll (← IO.getStderr) errors
  if !p.isRunning then return
  IO.sleep pause
  let clock ← IO.monoMsNow
  let p := p.advance (clock - s.clock)
  let (exchanges, p) ← takeReplies p (s.exchanges ++ sent)
  let (s, p) ← takeSignals { s with exchanges, clock } p
  let p ← takeEvents s p
  let (s, p) ← takeInput s p
  run s p before

/-- Watches from launch to goodbye, with a word in the log about both. -/
def watch (p : Program) (override : Option String) : IO Unit := do
  let options := Launch.logOptions p.setup
  let note := fun (message : String) (fields : List (String × Json.Tree)) =>
    match options.filter override with
    | .ok f => log options f ⟨.info, "boostwatch", ("message", .ofText message) :: fields⟩
    | .error _ => pure ()
  note "boostwatch starting"
    [("base_url", .ofText p.setup.baseUrl.print), ("view", .ofText p.setup.view.name)]
  let signals ← [Signal.sigint, Signal.sigterm].mapM fun signal => do
    (← Signal.Waiter.mk signal false).wait
  let s : Session := {
    input := ← IO.getStdin, signals, events := ← IO.mkRef [], clock := ← IO.monoMsNow }
  run s p none
  note "Bye!" []

end BoostFeed.Terminal

open BoostFeed BoostFeed.Terminal BoostFeed.Watch in
def main (args : List String) : IO UInt32 := do
  let found ← surroundings args
  let environment := found.withEnvFile.environment
  let epoch := (← Std.Time.Timestamp.now).toSecondsSinceUnixEpoch.val
  let stdout ← IO.getStdout
  let colors := wantsColors (fun name => environment.lookup name) (← stdout.isTty)
  match Launch.launch found args epoch colors with
  | .exits code output errors =>
    printAll stdout output
    printAll (← IO.getStderr) errors
    return UInt32.ofNat code
  | .runs p =>
    watch p (environment.lookup Logging.filterVariable)
    return 0
