/-! Standard input as it comes, cut into lines. A line that is not UTF-8 ends the reading. -/

namespace BoostFeed.Terminal

structure Input where
  /-- The bytes since the last line break, last first. -/
  rest : List UInt8 := []
  /-- Lines not yet worked off, oldest first. -/
  lines : List String := []
  /-- No more lines will come. -/
  closed : Bool := false

namespace Input

def newline : UInt8 := 10

def carriageReturn : UInt8 := 13

/-- Takes a line, given last byte first. -/
def takeLine (i : Input) (bytes : List UInt8) : Input :=
  match String.fromUTF8? (ByteArray.mk bytes.reverse.toArray) with
  | some line => { i with rest := [], lines := i.lines ++ [line] }
  | none => { i with rest := [], closed := true }

/-- The next byte. A carriage return before the line break belongs to it. -/
def byte (i : Input) (b : UInt8) : Input :=
  if i.closed then i
  else if b = newline then
    i.takeLine (match i.rest with
      | c :: rest => if c = carriageReturn then rest else i.rest
      | [] => [])
  else { i with rest := b :: i.rest }

def bytes (i : Input) (bs : List UInt8) : Input := bs.foldl byte i

/-- The end of the input. What comes after the last line break is a line. -/
def finish (i : Input) : Input :=
  if i.closed ∨ i.rest = [] then { i with closed := true }
  else { i.takeLine i.rest with closed := true }

end Input

end BoostFeed.Terminal
