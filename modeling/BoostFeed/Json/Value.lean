import BoostFeed.Json.Tree

/-! Generic JSON data: no repeated keys, members sorted by key, numbers as far as 64 bits or binary64
hold them, at most 127 containers inside each other. -/

namespace BoostFeed.Json

/-- Generic data. Members are sorted by key, each key once. -/
inductive Value where
  | null
  | bool (b : Bool)
  | number (n : Number)
  | string (s : String)
  | array (items : List Value)
  | object (members : List (String × Value))

instance : Inhabited Value := ⟨.null⟩

/-- How many containers may be open at once. -/
def maxNesting : Nat := 127

/-- Puts a member at its place in a sorted list; a member with the same key goes. -/
def insertMember {α : Type} (key : String) (a : α) : List (String × α) → List (String × α)
  | [] => [(key, a)]
  | (k, b) :: ms =>
    if key < k then (key, a) :: (k, b) :: ms
    else if key = k then (key, a) :: ms
    else (k, b) :: insertMember key a ms

/-- The members of an object sorted by key; of members with one key the last stays. -/
def sortMembers {α : Type} (ms : List (String × α)) : List (String × α) :=
  ms.foldl (fun sorted (k, a) => insertMember k a sorted) []

namespace Tree

mutual

/-- The data that a written value stands for, with so many containers still allowed. -/
def data? (room : Nat) : Tree → Option Value
  | .null => some .null
  | .bool b => some (.bool b)
  | .number n => (Number.ofNumeral? n).map .number
  | .string s => s.map .string
  | .array ts =>
    match room with
    | 0 => none
    | room + 1 => (itemData? room ts).map .array
  | .object ms =>
    match room with
    | 0 => none
    | room + 1 => (memberData? room ms).map fun ms => .object (sortMembers ms)

def itemData? (room : Nat) : List Tree → Option (List Value)
  | [] => some []
  | t :: ts => do return (← data? room t) :: (← itemData? room ts)

def memberData? (room : Nat) : List (Option String × Tree) → Option (List (String × Value))
  | [] => some []
  | (k, t) :: ms => do
    let key ← k
    let value ← data? room t
    return (key, value) :: (← memberData? room ms)

end

end Tree

namespace Value

/-- The data that a text writes. -/
def read? (s : String) : Option Value := (Tree.read? s).bind (Tree.data? maxNesting)

mutual

/-- The written form of generic data. -/
def toTree : Value → Tree
  | .null => .null
  | .bool b => .bool b
  | .number n => .number n.toNumeral
  | .string s => .string (some s)
  | .array vs => .array (itemTrees vs)
  | .object ms => .object (memberTrees ms)

def itemTrees : List Value → List Tree
  | [] => []
  | v :: vs => v.toTree :: itemTrees vs

def memberTrees : List (String × Value) → List (Option String × Tree)
  | [] => []
  | (k, v) :: ms => (some k, v.toTree) :: memberTrees ms

end

/-- The text of generic data: no blanks, keys in order. -/
def print (v : Value) : String := v.toTree.print

/-- The member of an object with this key. -/
def get? (v : Value) (key : String) : Option Value :=
  match v with
  | .object ms => ms.lookup key
  | _ => none

end Value

end BoostFeed.Json
