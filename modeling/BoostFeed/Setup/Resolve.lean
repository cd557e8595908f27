import BoostFeed.Setup.Layer
import BoostFeed.Address.Reader
import BoostFeed.Session.Basic

/-! The setup of a watcher: every option with a usable value. -/

namespace BoostFeed

open Address

/-- Everything a watcher is told. Intervals are positive. -/
structure Setup where
  baseUrl : Address
  /-- The push endpoint, if named. -/
  wsUrl : Option Address
  websocket : Bool
  view : View
  session : Settings
  audio : Bool
  pollIntervalSecs : UInt64
  balanceIntervalSecs : UInt64
  triggerTickMs : UInt64
  requestTimeoutSecs : UInt64
  maxRetries : UInt32
  authToken : Option String
  logDir : String
  logLevel : String
deriving DecidableEq

/-- An option whose value cannot be used. -/
inductive OptionError where
  | address (field value : String) (e : AddressError)
  | unusable (field reason : String)
deriving DecidableEq

def OptionError.message : OptionError → String
  | .address field value e => "invalid " ++ field ++ " '" ++ value ++ "': " ++ e.message
  | .unusable field reason => "invalid " ++ field ++ ": " ++ reason

namespace Setup

/-- Seconds between refreshes of the ages shown. -/
def ageRefreshSecs : Nat := 60

/-- How the program calls itself to servers. -/
def userAgent : String := "boostwatch/0.1.0"

def readAddress (field value : String) : Except OptionError Address :=
  match Address.read value with
  | .ok a => .ok a
  | .error e => .error (.address field value e)

def readView (text : String) : Except OptionError View :=
  match View.parse text with
  | .ok v => .ok v
  | .error other => .error (.unusable "view" (View.unknownMessage other))

def positive (field : String) : Option UInt64 → Except OptionError UInt64
  | some n => if n = 0 then .error (.unusable field "must be greater than zero") else .ok n
  | none => .error (.unusable field "must be greater than zero")

end Setup

/-- The setup that a layer over the built-in one gives, or the first option that cannot be used. -/
def Layer.resolve (layer : Layer) : Except OptionError Setup := do
  let l := builtIn.merge layer
  let baseUrl ← Setup.readAddress "base url" (l.baseUrl.getD "")
  let wsUrl ← l.wsUrl.mapM (Setup.readAddress "ws url")
  let view ← Setup.readView (l.view.getD "")
  let requestTimeoutSecs ← Setup.positive "request timeout" l.requestTimeoutSecs
  let pollIntervalSecs ← Setup.positive "poll interval" l.pollIntervalSecs
  let balanceIntervalSecs ← Setup.positive "balance interval" l.balanceIntervalSecs
  let triggerTickMs ← Setup.positive "trigger tick" l.triggerTickMs
  return {
    baseUrl, wsUrl, view, requestTimeoutSecs, pollIntervalSecs, balanceIntervalSecs, triggerTickMs
    websocket := l.websocket.getD false
    session := {
      minSats := l.minSats.getD 0
      playback := l.playback.getD true
      showReceivedSats := l.showReceivedSats.getD false }
    audio := l.audio.getD false
    maxRetries := l.maxRetries.getD 0
    authToken := l.authToken.filter (· ≠ "")
    logDir := l.logDir.getD "./logs"
    logLevel := l.logLevel.getD "info" }

end BoostFeed
