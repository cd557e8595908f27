import BoostFeed.Feed.Action
import BoostFeed.Text.Blank

/-! The feeds a session can follow. Each has its endpoints and the family of payments it shows. -/

namespace BoostFeed

/-- A feed of the server. -/
inductive View where
  /-- Received boosts. -/
  | boosts
  /-- Received streams. -/
  | streams
  /-- Outgoing payments. -/
  | sent
deriving DecidableEq, Inhabited

namespace View

def name : View → String
  | .boosts => "boosts"
  | .streams => "streams"
  | .sent => "sent"

/-- The endpoint of the feed, relative to the server's base. -/
def feedPath : View → String
  | .boosts => "api/v1/boosts"
  | .streams => "api/v1/streams"
  | .sent => "api/v1/sent"

/-- The endpoint of the feed's current index. -/
def indexPath : View → String
  | .boosts | .streams => "api/v1/index"
  | .sent => "api/v1/sent_index"

/-- Whether payments of this kind belong to the feed. -/
def accepts (v : View) (a : Feed.Action) : Bool :=
  match v with
  | .boosts | .sent => a.kind = .boost
  | .streams => a.kind = .stream

/-- Whether arrivals play and celebrate. Payments the user sent do neither. -/
def hasEffects : View → Bool
  | .boosts | .streams => true
  | .sent => false

/-- The feed that a text names, in any case and with blanks around it; else the text as it was looked
up. -/
def parse (text : String) : Except String View :=
  match String.ofList (Text.asciiLower (Text.trimmed text.toList)) with
  | "boosts" | "boost" => .ok .boosts
  | "streams" | "stream" => .ok .streams
  | "sent" => .ok .sent
  | other => .error other

/-- What is said about a text that names no feed. -/
def unknownMessage (other : String) : String :=
  "unknown view '" ++ other ++ "', expected boosts, streams or sent"

end View

end BoostFeed
