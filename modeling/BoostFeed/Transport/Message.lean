import BoostFeed.Service.Client

/-! HTTP 1.1 messages as bytes. A connection carries one request and closes behind the answer. -/

namespace BoostFeed.Transport

open Address

def lineEnd : String := "\r\n"

/-- A header line. -/
def headerLine (field : String × String) : String := field.1 ++ ": " ++ field.2 ++ lineEnd

/-- The server as a request names it: its port only where it is not the usual one. -/
def serverName (a : Address) : String :=
  (a.host.map Host.print).getD "" ++ (a.port.map fun p => ":" ++ p.repr).getD ""

/-- The header lines of a form. -/
def formFields (body : String) : List (String × String) :=
  [("content-type", "application/x-www-form-urlencoded"), ("content-length", body.utf8ByteSize.repr)]

def requestFields (agent : String) (r : HttpRequest) : List (String × String) :=
  [("host", serverName r.address), ("user-agent", agent), ("accept", "*/*"), ("connection", "close")] ++
    (r.authorization.map fun a => ("authorization", a)).toList ++ (r.body.map formFields).getD []

/-- A request as it goes out. -/
def requestText (agent : String) (r : HttpRequest) : String :=
  r.method ++ " " ++ r.address.target ++ " HTTP/1.1" ++ lineEnd ++
    String.join ((requestFields agent r).map headerLine) ++ lineEnd ++ r.body.getD ""

/-- The bytes before the first line end, and those behind it. -/
def cutLine? : List UInt8 → Option (List UInt8 × List UInt8)
  | [] => none
  | 13 :: 10 :: rest => some ([], rest)
  | b :: rest => (cutLine? rest).map fun (line, rest) => (b :: line, rest)

/-- One character for each byte. -/
def latinText (bytes : List UInt8) : List Char := bytes.map fun b => Char.ofNat b.toNat

/-- The lines up to the first empty one, and the bytes behind it. -/
def headLines? : Nat → List UInt8 → Option (List (List Char) × List UInt8)
  | 0, _ => none
  | fuel + 1, bytes => do
    match ← cutLine? bytes with
    | ([], rest) => some ([], rest)
    | (line, rest) =>
      let (lines, rest) ← headLines? fuel rest
      some (latinText line :: lines, rest)

/-- The head of an answer. -/
structure Head where
  status : Nat
  /-- Names in small letters, values without blanks around them. -/
  fields : List (String × String)

namespace Head

def field (line : List Char) : String × String :=
  (String.ofList (Text.asciiLower (line.takeWhile (· ≠ ':'))),
    String.ofList (Text.trimmed ((line.dropWhile (· ≠ ':')).drop 1)))

/-- The head that lines write, the first with the status. -/
def ofLines? : List (List Char) → Option Head
  | [] => none
  | first :: fields =>
    match Text.words first with
    | _ :: status :: _ => (Text.digits? status).map fun status => ⟨status, fields.map field⟩
    | _ => none

/-- The head in front of some bytes, and the bytes behind it. -/
def read? (bytes : List UInt8) : Option (Head × List UInt8) := do
  let (lines, rest) ← headLines? (bytes.length + 1) bytes
  some (← ofLines? lines, rest)

end Head

/-- A body in chunks. Each has its size on a line before it and a line end behind it; size zero ends. -/
def unchunked? : Nat → List UInt8 → Option (List UInt8)
  | 0, _ => none
  | fuel + 1, bytes => do
    let (line, rest) ← cutLine? bytes
    let size ← Host.inBase? 16 ((latinText line).takeWhile fun c => (hexValue? c).isSome)
    if size = 0 then some []
    else if rest.length < size + 2 then none
    else return rest.take size ++ (← unchunked? fuel (rest.drop (size + 2)))

/-- The body behind a head: in chunks, of a stated length, or all that came. -/
def Head.body? (h : Head) (bytes : List UInt8) : Option (List UInt8) :=
  if h.fields.lookup "transfer-encoding" = some "chunked" then unchunked? (bytes.length + 1) bytes
  else match (h.fields.lookup "content-length").bind fun n => Text.digits? n.toList with
    | some n => if bytes.length < n then none else some (bytes.take n)
    | none => some bytes

/-- The text that bytes are in UTF-8; other bytes are no text. -/
def bodyText (bytes : List UInt8) : String := (String.fromUTF8? bytes.toByteArray).getD ""

/-- The answer that all bytes of a connection are. -/
def replyOf? (bytes : List UInt8) : Option HttpReply := do
  let (head, rest) ← Head.read? bytes
  return ⟨head.status, bodyText (← head.body? rest)⟩

end BoostFeed.Transport
