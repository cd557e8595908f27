import BoostFeed.Json.Record
import BoostFeed.Logging.Day

/-! Log records: how serious they are, where they come from, and what they say. -/

namespace BoostFeed.Logging

open Json

inductive Level where
  | error
  | warn
  | info
  | debug
  | trace
deriving DecidableEq

namespace Level

def name : Level → String
  | .error => "ERROR"
  | .warn => "WARN"
  | .info => "INFO"
  | .debug => "DEBUG"
  | .trace => "TRACE"

/-- How verbose a log must be to hold records of this level; the level above them all is zero. -/
def verbosity : Level → Nat
  | .error => 1
  | .warn => 2
  | .info => 3
  | .debug => 4
  | .trace => 5

end Level

/-- A record. Its message is one of its fields. -/
structure Record where
  level : Level
  target : String
  fields : List (String × Tree)

namespace Record

/-- What a record says and where it comes from. -/
def members (r : Record) : List (String × Tree) := [
  ("level", .ofText r.level.name),
  ("target", .ofText r.target),
  ("fields", .ofFields r.fields)]

/-- What a record's line in a log file holds, the time apart. -/
def toTree (r : Record) : Tree := .ofFields r.members

/-- The line of a record in a log file. -/
def line (r : Record) (seconds : Int) : String :=
  (Tree.ofFields (("timestamp", .ofText (timeText seconds)) :: r.members)).print

end Record

end BoostFeed.Logging
