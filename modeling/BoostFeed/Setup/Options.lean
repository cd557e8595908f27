import BoostFeed.Setup.Layer
import BoostFeed.Text.Digits

/-! The options by name. Each has a flag for the command line and a variable for the surroundings; a flag
hides its variable. -/

namespace BoostFeed

/-- The options, in the order in which their variables are read. -/
inductive OptionKey where
  | baseUrl
  | wsUrl
  | websocket
  | view
  | minSats
  | playback
  | audio
  | showReceivedSats
  | pollIntervalSecs
  | balanceIntervalSecs
  | triggerTickMs
  | requestTimeoutSecs
  | maxRetries
  | authToken
  | logDir
  | logLevel
  | configPath
deriving DecidableEq

/-- Why a command line, or a variable in place of it, is not acted on. -/
inductive UsageError where
  | unknownArgument
  /-- No value, an empty path, or neither `true` nor `false`. -/
  | invalidValue
  /-- A number that cannot be read. -/
  | valueValidation
  /-- An option given twice. -/
  | argumentConflict
  /-- A value for a flag that takes none. -/
  | tooManyValues
  | displayHelp
  | displayVersion
deriving DecidableEq

namespace OptionKey

def all : List OptionKey :=
  [.baseUrl, .wsUrl, .websocket, .view, .minSats, .playback, .audio, .showReceivedSats,
    .pollIntervalSecs, .balanceIntervalSecs, .triggerTickMs, .requestTimeoutSecs, .maxRetries,
    .authToken, .logDir, .logLevel, .configPath]

/-- The flag of an option without its dashes. -/
def flag : OptionKey → String
  | .baseUrl => "base-url"
  | .wsUrl => "ws-url"
  | .websocket => "websocket"
  | .view => "view"
  | .minSats => "min-sats"
  | .playback => "playback"
  | .audio => "audio"
  | .showReceivedSats => "show-received-sats"
  | .pollIntervalSecs => "poll-interval-secs"
  | .balanceIntervalSecs => "balance-interval-secs"
  | .triggerTickMs => "trigger-tick-ms"
  | .requestTimeoutSecs => "request-timeout-secs"
  | .maxRetries => "max-retries"
  | .authToken => "auth-token"
  | .logDir => "log-dir"
  | .logLevel => "log-level"
  | .configPath => "config-path"

/-- The variable of an option: its flag in capitals, with a common start. -/
def variableName (k : OptionKey) : String :=
  "BOOSTWATCH_" ++ k.flag.map fun c => if c = '-' then '_' else c.toUpper

/-- What an option does, for the user. -/
def help : OptionKey → String
  | .baseUrl => "Base URL of the feed server."
  | .wsUrl => "WebSocket push endpoint. Derived from the base URL when omitted."
  | .websocket => "Also listen on the WebSocket push channel (true/false)."
  | .view => "Feed to follow: boosts, streams or sent."
  | .minSats => "Hide events below this many sats."
  | .playback => "Play cues for new events (true/false)."
  | .audio => "Play cues on the sound card instead of logging them (true/false)."
  | .showReceivedSats => "Show received sats instead of the total (true/false)."
  | .pollIntervalSecs => "Seconds between feed polls."
  | .balanceIntervalSecs => "Seconds between balance refreshes."
  | .triggerTickMs => "Milliseconds between trigger queue ticks."
  | .requestTimeoutSecs => "Per-request HTTP timeout in seconds."
  | .maxRetries => "Retries for transient HTTP failures."
  | .authToken => "Bearer token sent with every request."
  | .logDir => "Directory for log files."
  | .logLevel => "Logging level (trace, debug, info, warn, error)."
  | .configPath => "Path to the JSON configuration file."

def ofFlag? (name : String) : Option OptionKey := all.find? (·.flag == name)

end OptionKey

namespace Layer

open OptionKey

def readTruth : String → Except UsageError Bool
  | "true" => .ok true
  | "false" => .ok false
  | _ => .error .invalidValue

def readNumber {α : Type} (read? : List Char → Option α) (s : String) : Except UsageError α :=
  match read? s.toList with
  | some n => .ok n
  | none => .error .valueValidation

/-- A number of retries is read with a sign, so that a negative zero is one. -/
def retries? (cs : List Char) : Option UInt32 :=
  (Text.integer? cs).bind fun n => if 0 ≤ n ∧ n < UInt32.size then some (UInt32.ofNat n.toNat) else none

def readPath (s : String) : Except UsageError String := if s = "" then .error .invalidValue else .ok s

/-- Sets an option to the value that a text writes. -/
def set (l : Layer) (k : OptionKey) (s : String) : Except UsageError Layer :=
  match k with
  | .baseUrl => .ok { l with baseUrl := s }
  | .wsUrl => .ok { l with wsUrl := s }
  | .websocket => do return { l with websocket := ← readTruth s }
  | .view => .ok { l with view := s }
  | .minSats => do return { l with minSats := ← readNumber Text.int64? s }
  | .playback => do return { l with playback := ← readTruth s }
  | .audio => do return { l with audio := ← readTruth s }
  | .showReceivedSats => do return { l with showReceivedSats := ← readTruth s }
  | .pollIntervalSecs => do return { l with pollIntervalSecs := ← readNumber Text.uint64? s }
  | .balanceIntervalSecs => do return { l with balanceIntervalSecs := ← readNumber Text.uint64? s }
  | .triggerTickMs => do return { l with triggerTickMs := ← readNumber Text.uint64? s }
  | .requestTimeoutSecs => do return { l with requestTimeoutSecs := ← readNumber Text.uint64? s }
  | .maxRetries => do return { l with maxRetries := ← readNumber retries? s }
  | .authToken => .ok { l with authToken := s }
  | .logDir => do return { l with logDir := ← readPath s }
  | .logLevel => .ok { l with logLevel := s }
  | .configPath => do return { l with configPath := ← readPath s }

end Layer

end BoostFeed
