import BoostFeed.Service.Failure
import BoostFeed.Session.Plan
import BoostFeed.Feed.Wire

/-! The client of a feed server: the requests it sends and what it makes of the answers. -/

namespace BoostFeed

open Json Feed Address

structure HttpRequest where
  method : String
  address : Address
  body : Option String := none
  authorization : Option String := none
deriving DecidableEq

/-- Whether a request can leave: over the web, and with an authorization that fits into a header. -/
def HttpRequest.canLeave (r : HttpRequest) : Bool :=
  (r.address.scheme = "http" || r.address.scheme = "https") &&
    (r.authorization.getD "").toList.all fun c => c = '\t' || (' ' ≤ c && c.toNat ≠ 0x7f)

structure HttpReply where
  status : Nat
  body : String
deriving DecidableEq

namespace HttpReply

def succeeds (r : HttpReply) : Bool := 200 ≤ r.status && r.status < 300

/-- Said of a successful answer whose body is not what was asked for. -/
def undecodable : String := "error decoding response body"

/-- The status that denies access. -/
def forbidden : Nat := 403

/-- What an answer means: the decoded body, or how the request failed. No answer is a transport
failure. -/
def interpret {α : Type} (decode : String → Option α) : Option HttpReply → Except Failure α
  | none => .error .transport
  | some r =>
    if r.succeeds then
      match decode r.body with
      | some a => .ok a
      | none => .error (.decode undecodable)
    else if r.status = forbidden then .error .unauthorized
    else .error (.http r.status r.body)

/-- An answer as it came: the data of a success, or the body of a refusal. -/
structure RawAnswer where
  status : Nat
  data : Option Value := none
  errorBody : Option String := none

/-- Reads an answer of any status. -/
def raw : Option HttpReply → Except Failure RawAnswer
  | none => .error .transport
  | some r =>
    if r.succeeds then
      match Value.read? r.body with
      | some data => .ok { status := r.status, data }
      | none => .error (.decode undecodable)
    else .ok { status := r.status, errorBody := r.body }

/-- Whether asking again may help: no answer, a server error, or one of two statuses about time. -/
def worthRetrying : Option HttpReply → Bool
  | none => true
  | some r => r.status = 408 || r.status = 429 || (500 ≤ r.status && r.status < 600)

end HttpReply

/-- A client of one server. The base address ends in a slash. -/
structure Client where
  base : Address
  token : Option String := none
deriving DecidableEq

/-- A reply to an event, with money. -/
structure ReplyRequest where
  index : UInt64
  sats : UInt64
  sender : Option String := none
  message : Option String := none
deriving DecidableEq

namespace ReplyRequest

def form (r : ReplyRequest) : List (String × String) :=
  [("index", r.index.toNat.repr), ("sats", r.sats.toNat.repr)] ++
    (r.sender.map (("sender", ·))).toList ++ (r.message.map (("message", ·))).toList

end ReplyRequest

/-- What the server says about a reply. -/
structure ReplyAnswer where
  success : Bool := false
  message : Option String := none
  data : Option Event := none

namespace ReplyAnswer

def fields : List Field := ["success", "message", "data"]

def ofTree? (t : Tree) : Option ReplyAnswer := do
  let r ← t.record? fields
  return {
    success := ← r.field "success" false Tree.bool?
    message := ← r.optional "message" Tree.text?
    data := ← r.optional "data" Event.ofTree? }

/-- The event the reply was recorded against, where the server names it. -/
def replyTo (a : ReplyAnswer) : Option UInt64 := a.data.bind fun e => e.payment.bind Payment.replyTo

end ReplyAnswer

namespace PageQuery

/-- `old` is named only where it is set. -/
def form (q : PageQuery) : List (String × String) :=
  [("index", q.index.toNat.repr), ("count", q.count.repr)] ++ (if q.old then [("old", "true")] else [])

end PageQuery

namespace Client

/-- The client of the server at an address. -/
def ofAddress (a : Address) (token : Option String) : Client := { base := a.withSlash, token }

/-- A path on the server. -/
def address (c : Client) (path : String) : Except Failure Address :=
  match c.base.join path with
  | .ok a => .ok a
  | .error e => .error (.invalidAddress e)

def authorization (c : Client) : Option String := c.token.map ("Bearer " ++ ·)

/-- A request with the token of the client. -/
def request (c : Client) (method path : String) (body : Option String) : Except Failure HttpRequest := do
  return { method, address := ← c.address path, body, authorization := c.authorization }

/-- A query for data. An address keeps no empty query. -/
def get (c : Client) (path : String) (pairs : List (String × String)) : Except Failure HttpRequest := do
  let r ← c.request "GET" path none
  return { r with address := r.address.withQuery pairs }

def pageRequest (c : Client) (path : String) (q : PageQuery) : Except Failure HttpRequest := c.get path q.form

def indexRequest (c : Client) (path : String) : Except Failure HttpRequest := c.get path []

def balanceRequest (c : Client) : Except Failure HttpRequest := c.get "api/v1/balance" []

def rulesRequest (c : Client) : Except Failure HttpRequest := c.get "numerology.json" []

def appsRequest (c : Client) : Except Failure HttpRequest := c.get "apps.json" []

def replyRequest (c : Client) (r : ReplyRequest) : Except Failure HttpRequest :=
  c.request "POST" "api/v1/reply" (some (formText r.form))

/-- A request of any kind. An authorization of its own replaces that of the client. -/
def rawRequest (c : Client) (method path : String) (payload : Option Value)
    (authorization : Option String) : Except Failure HttpRequest := do
  let r ← c.request method path (payload.map Value.print)
  return { r with authorization := authorization <|> r.authorization }

end Client

/-- The events of a page in an answer. -/
def decodePage (body : String) : Option (List Event) := (Tree.read? body).bind Event.pageOfTree?

/-- Raw data in an answer. -/
def decodeValue (body : String) : Option Value := Value.read? body

def decodeReply (body : String) : Option ReplyAnswer := (Tree.read? body).bind ReplyAnswer.ofTree?

/-- The apps in an answer, by name. -/
def decodeApps (body : String) : Option (List (String × AppInfo)) :=
  (Tree.read? body).bind AppCatalog.entries?

/-- The rules in an answer. Their list is read as generic data first. -/
def decodeRules (body : String) : Option (List Numerology.Rule) :=
  (Value.read? body).bind fun v => Numerology.Rule.listOfTree? v.toTree

end BoostFeed
