import BoostFeed.Json.Token

/-! A JSON text as it is written: members in their order, repeated keys kept, numbers digit by digit.
Reading runs a stack machine over the tokens, so nesting has no limit here. -/

namespace BoostFeed.Json

/-- A text as written. A string or key is `none` if a surrogate stands alone in it. -/
inductive Tree where
  | null
  | bool (b : Bool)
  | number (n : Numeral)
  | string (s : Option String)
  | array (items : List Tree)
  | object (members : List (Option String × Tree))

instance : Inhabited Tree := ⟨.null⟩

/-- A container that waits for the value of an item or member; what it holds is last first. -/
inductive Frame where
  | item (done : List Tree)
  | member (done : List (Option String × Tree)) (key : Option String)

/-- What may come next. -/
inductive Spot where
  | value
  | firstItem
  | firstMember
  | key (done : List (Option String × Tree))
  | colon (done : List (Option String × Tree)) (key : Option String)
  | after (t : Tree)

/-- The reader: what may come next, and the open containers, innermost first. -/
structure Reader where
  spot : Spot
  stack : List Frame

namespace Reader

def start : Reader := ⟨.value, []⟩

/-- A token where a value may begin. -/
def value (stack : List Frame) : Token → Option Reader
  | .openArray => some ⟨.firstItem, stack⟩
  | .openObject => some ⟨.firstMember, stack⟩
  | .null => some ⟨.after .null, stack⟩
  | .bool b => some ⟨.after (.bool b), stack⟩
  | .number n => some ⟨.after (.number n), stack⟩
  | .string s => some ⟨.after (.string s), stack⟩
  | _ => none

/-- A token after a complete value. -/
def after (t : Tree) : List Frame → Token → Option Reader
  | .item done :: stack, .comma => some ⟨.value, .item (t :: done) :: stack⟩
  | .item done :: stack, .closeArray => some ⟨.after (.array (t :: done).reverse), stack⟩
  | .member done key :: stack, .comma => some ⟨.key ((key, t) :: done), stack⟩
  | .member done key :: stack, .closeObject => some ⟨.after (.object ((key, t) :: done).reverse), stack⟩
  | _, _ => none

def step (r : Reader) (token : Token) : Option Reader :=
  match r.spot, token with
  | .value, token => value r.stack token
  | .firstItem, .closeArray => some ⟨.after (.array []), r.stack⟩
  | .firstItem, token => value (.item [] :: r.stack) token
  | .firstMember, .closeObject => some ⟨.after (.object []), r.stack⟩
  | .firstMember, .string key => some ⟨.colon [] key, r.stack⟩
  | .key done, .string key => some ⟨.colon done key, r.stack⟩
  | .colon done key, .colon => some ⟨.value, .member done key :: r.stack⟩
  | .after t, token => after t r.stack token
  | _, _ => none

def finish (r : Reader) : Option Tree :=
  match r.spot, r.stack with
  | .after t, [] => some t
  | _, _ => none

end Reader

namespace Tree

/-- The one value that a list of tokens writes. -/
def ofTokens? (ts : List Token) : Option Tree :=
  (ts.foldlM Reader.step Reader.start).bind Reader.finish

/-- The value that a text writes. -/
def read? (s : String) : Option Tree := (Token.scan s.toList).bind ofTokens?

mutual

def tokens : Tree → List Token
  | .null => [.null]
  | .bool b => [.bool b]
  | .number n => [.number n]
  | .string s => [.string s]
  | .array [] => [.openArray, .closeArray]
  | .array (t :: ts) => .openArray :: t.tokens ++ itemTokens ts
  | .object [] => [.openObject, .closeObject]
  | .object ((k, t) :: ms) => .openObject :: .string k :: .colon :: t.tokens ++ memberTokens ms

def itemTokens : List Tree → List Token
  | [] => [.closeArray]
  | t :: ts => .comma :: t.tokens ++ itemTokens ts

def memberTokens : List (Option String × Tree) → List Token
  | [] => [.closeObject]
  | (k, t) :: ms => .comma :: .string k :: .colon :: t.tokens ++ memberTokens ms

end

/-- The text of a value, without blanks. -/
def print (t : Tree) : String := String.ofList (t.tokens.flatMap Token.print)

end Tree

end BoostFeed.Json
