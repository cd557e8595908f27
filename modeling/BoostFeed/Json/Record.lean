import BoostFeed.Json.Tree

/-! Typed data in a JSON text. A record is written as an object with declared fields, of which none may
repeat, among members of no meaning, or as the array of its fields in declaration order. Integers
are written without fraction and exponent. -/

namespace BoostFeed.Json

/-- A declared field and a second name it also goes by. -/
structure Field where
  name : String
  other : Option String := none

instance : Coe String Field := ⟨fun name => { name }⟩

def Field.goesBy (f : Field) (key : String) : Bool := f.name == key || f.other == some key

/-- The fields that a record sets, by declared name. -/
abbrev Record := List (String × Tree)

namespace Tree

/-- The record that a value writes. In an array trailing fields may be missing, none may be too many. -/
def record? (declared : List Field) : Tree → Option Record
  | .object members => do
    let keyed ← members.mapM fun (key, t) => key.map (·, t)
    let known := keyed.filterMap fun (key, t) => (declared.find? (·.goesBy key)).map (·.name, t)
    if (known.map Prod.fst).Nodup then some known else none
  | .array items =>
    if items.length ≤ declared.length then some ((declared.map Field.name).zip items) else none
  | _ => none

def bool? : Tree → Option Bool
  | .bool b => some b
  | _ => none

def text? : Tree → Option String
  | .string s => s
  | _ => none

def int? : Tree → Option Int
  | .number n => n.toInt?
  | _ => none

/-- An integer from zero to below a bound. -/
def below? (bound : Nat) (t : Tree) : Option Nat :=
  t.int?.bind fun n => if 0 ≤ n ∧ n < bound then some n.toNat else none

def uint8? (t : Tree) : Option UInt8 := (t.below? UInt8.size).map UInt8.ofNat

def uint32? (t : Tree) : Option UInt32 := (t.below? UInt32.size).map UInt32.ofNat

def uint64? (t : Tree) : Option UInt64 := (t.below? UInt64.size).map UInt64.ofNat

def int64? (t : Tree) : Option Int64 :=
  t.int?.bind fun n => if Int64.minValue.toInt ≤ n ∧ n ≤ Int64.maxValue.toInt then some (Int64.ofInt n) else none

/-- `null`, or a value of the given kind. -/
def nullable? {α : Type} (decode : Tree → Option α) : Tree → Option (Option α)
  | .null => some none
  | t => (decode t).map some

/-- An array of values of the given kind. -/
def list? {α : Type} (decode : Tree → Option α) : Tree → Option (List α)
  | .array items => items.mapM decode
  | _ => none

/-- An object of values of the given kind: all must decode, of one key the last counts. -/
def map? {α : Type} (decode : Tree → Option α) : Tree → Option (List (String × α))
  | .object members => members.mapM fun (key, t) => do return (← key, ← decode t)
  | _ => none

end Tree

namespace Record

/-- A field of the given kind, or its default where the record does not set it. -/
def field {α : Type} (r : Record) (name : String) (default : α) (decode : Tree → Option α) : Option α :=
  match r.lookup name with
  | some t => decode t
  | none => some default

/-- A field that may be `null` or missing. -/
def optional {α : Type} (r : Record) (name : String) (decode : Tree → Option α) : Option (Option α) :=
  r.field name none (Tree.nullable? decode)

end Record

namespace Tree

def ofInt (n : Int) : Tree := .number (.ofInt n)

def ofNat (n : Nat) : Tree := .number (.ofInt n)

def ofText (s : String) : Tree := .string (some s)

def ofOption {α : Type} (write : α → Tree) : Option α → Tree
  | some a => write a
  | none => .null

def ofList {α : Type} (write : α → Tree) (as : List α) : Tree := .array (as.map write)

def ofFields (fields : List (String × Tree)) : Tree := .object (fields.map fun (k, t) => (some k, t))

end Tree

end BoostFeed.Json
