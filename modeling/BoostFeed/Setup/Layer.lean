import BoostFeed.Json.Record

/-! A layer of options, of which each may be unset: the built-in values, a settings file, or what the
surroundings and the command line say. Layers merge option by option. -/

namespace BoostFeed

open Json

/-- One layer of options. -/
structure Layer where
  baseUrl : Option String := none
  wsUrl : Option String := none
  websocket : Option Bool := none
  view : Option String := none
  minSats : Option Int64 := none
  playback : Option Bool := none
  audio : Option Bool := none
  showReceivedSats : Option Bool := none
  pollIntervalSecs : Option UInt64 := none
  balanceIntervalSecs : Option UInt64 := none
  triggerTickMs : Option UInt64 := none
  requestTimeoutSecs : Option UInt64 := none
  maxRetries : Option UInt32 := none
  authToken : Option String := none
  logDir : Option String := none
  logLevel : Option String := none
  configPath : Option String := none
deriving DecidableEq

namespace Layer

/-- The built-in layer. -/
def builtIn : Layer where
  baseUrl := some "http://127.0.0.1:2112/"
  websocket := some false
  view := some "boosts"
  minSats := some 0
  playback := some true
  audio := some false
  showReceivedSats := some false
  pollIntervalSecs := some 7
  balanceIntervalSecs := some 7
  triggerTickMs := some 1000
  requestTimeoutSecs := some 10
  maxRetries := some 3
  logDir := some "./logs"
  logLevel := some "info"

/-- One layer under another: the upper one counts wherever it is set. -/
def merge (lower upper : Layer) : Layer where
  baseUrl := upper.baseUrl <|> lower.baseUrl
  wsUrl := upper.wsUrl <|> lower.wsUrl
  websocket := upper.websocket <|> lower.websocket
  view := upper.view <|> lower.view
  minSats := upper.minSats <|> lower.minSats
  playback := upper.playback <|> lower.playback
  audio := upper.audio <|> lower.audio
  showReceivedSats := upper.showReceivedSats <|> lower.showReceivedSats
  pollIntervalSecs := upper.pollIntervalSecs <|> lower.pollIntervalSecs
  balanceIntervalSecs := upper.balanceIntervalSecs <|> lower.balanceIntervalSecs
  triggerTickMs := upper.triggerTickMs <|> lower.triggerTickMs
  requestTimeoutSecs := upper.requestTimeoutSecs <|> lower.requestTimeoutSecs
  maxRetries := upper.maxRetries <|> lower.maxRetries
  authToken := upper.authToken <|> lower.authToken
  logDir := upper.logDir <|> lower.logDir
  logLevel := upper.logLevel <|> lower.logLevel
  configPath := upper.configPath <|> lower.configPath

def fields : List Field :=
  ["baseUrl", "wsUrl", "websocket", "view", "minSats", "playback", "audio", "showReceivedSats",
    "pollIntervalSecs", "balanceIntervalSecs", "triggerTickMs", "requestTimeoutSecs", "maxRetries",
    "authToken", "logDir", "logLevel", "configPath"]

/-- Whether an array names every option; in an object any may be missing. -/
def isComplete : Tree → Bool
  | .array items => items.length == fields.length
  | _ => true

/-- The layer that a value writes. -/
def ofTree? (t : Tree) : Option Layer := do
  guard (isComplete t)
  let r ← t.record? fields
  return {
    baseUrl := ← r.optional "baseUrl" Tree.text?
    wsUrl := ← r.optional "wsUrl" Tree.text?
    websocket := ← r.optional "websocket" Tree.bool?
    view := ← r.optional "view" Tree.text?
    minSats := ← r.optional "minSats" Tree.int64?
    playback := ← r.optional "playback" Tree.bool?
    audio := ← r.optional "audio" Tree.bool?
    showReceivedSats := ← r.optional "showReceivedSats" Tree.bool?
    pollIntervalSecs := ← r.optional "pollIntervalSecs" Tree.uint64?
    balanceIntervalSecs := ← r.optional "balanceIntervalSecs" Tree.uint64?
    triggerTickMs := ← r.optional "triggerTickMs" Tree.uint64?
    requestTimeoutSecs := ← r.optional "requestTimeoutSecs" Tree.uint64?
    maxRetries := ← r.optional "maxRetries" Tree.uint32?
    authToken := ← r.optional "authToken" Tree.text?
    logDir := ← r.optional "logDir" Tree.text?
    logLevel := ← r.optional "logLevel" Tree.text?
    configPath := ← r.optional "configPath" Tree.text? }

/-- The layer that a text writes. -/
def read? (s : String) : Option Layer := (Tree.read? s).bind ofTree?

def toTree (l : Layer) : Tree := .ofFields [
  ("baseUrl", .ofOption .ofText l.baseUrl),
  ("wsUrl", .ofOption .ofText l.wsUrl),
  ("websocket", .ofOption .bool l.websocket),
  ("view", .ofOption .ofText l.view),
  ("minSats", .ofOption (fun n => .ofInt n.toInt) l.minSats),
  ("playback", .ofOption .bool l.playback),
  ("audio", .ofOption .bool l.audio),
  ("showReceivedSats", .ofOption .bool l.showReceivedSats),
  ("pollIntervalSecs", .ofOption (fun n => .ofNat n.toNat) l.pollIntervalSecs),
  ("balanceIntervalSecs", .ofOption (fun n => .ofNat n.toNat) l.balanceIntervalSecs),
  ("triggerTickMs", .ofOption (fun n => .ofNat n.toNat) l.triggerTickMs),
  ("requestTimeoutSecs", .ofOption (fun n => .ofNat n.toNat) l.requestTimeoutSecs),
  ("maxRetries", .ofOption (fun n => .ofNat n.toNat) l.maxRetries),
  ("authToken", .ofOption .ofText l.authToken),
  ("logDir", .ofOption .ofText l.logDir),
  ("logLevel", .ofOption .ofText l.logLevel),
  ("configPath", .ofOption .ofText l.configPath)]

end Layer

end BoostFeed
