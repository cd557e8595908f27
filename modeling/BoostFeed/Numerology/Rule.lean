import BoostFeed.Numerology.Pattern.Reader
import BoostFeed.Json.Value
import BoostFeed.Json.Record

/-! Rules that annotate amounts. A rule compares the whole amount with a bound, or looks for a pattern in
its decimal digits. -/

namespace BoostFeed.Numerology

open Json
open BoostFeed.Number (Digit)

/-- Comparisons of an amount with a bound. -/
inductive Comparison where
  | equal
  | less
  | lessOrEqual
  | greater
  | greaterOrEqual
deriving DecidableEq

namespace Comparison

/-- The comparison that a sign between blanks names. -/
def parse? (sign : String) : Option Comparison :=
  match Text.trim sign with
  | "=" | "==" => some .equal
  | "<" => some .less
  | "<=" => some .lessOrEqual
  | ">" => some .greater
  | ">=" => some .greaterOrEqual
  | _ => none

/-- Whether `amount` and `bound` stand in this order. -/
def holds (c : Comparison) (amount bound : UInt64) : Bool :=
  match c with
  | .equal => amount == bound
  | .less => amount < bound
  | .lessOrEqual => amount ≤ bound
  | .greater => bound < amount
  | .greaterOrEqual => bound ≤ amount

end Comparison

/-- What a rule asks of an amount. -/
inductive Predicate where
  | compare (c : Comparison) (bound : UInt64)
  | pattern (text : String) (p : Pattern)

structure Rule where
  name : String
  emoji : String
  soundFile : Option String
  predicate : Predicate

/-- A comparison with `=`, which supersedes every other rule. -/
def Rule.isEquality (r : Rule) : Bool :=
  match r.predicate with
  | .compare .equal _ => true
  | _ => false

/-- An amount as rule lists write it. -/
inductive AmountEntry where
  | number (n : UInt64)
  | text (s : String)

/-- The digits of a written amount, which must have nothing else but blanks around them. -/
def AmountEntry.digits? : AmountEntry → Option (List Char)
  | .number n => some (Text.digitsOf n.toNat)
  | .text s =>
    let cs := Text.trimmed s.toList
    if !cs.isEmpty && cs.all Char.isDigit then some cs else none

/-- A rule as written. -/
structure Entry where
  name : String := ""
  emoji : String := ""
  equality : Option String := none
  amount : Option AmountEntry := none
  regex : Option String := none
  soundFile : Option String := none

namespace Entry

def fields : List Field :=
  [{ name := "name", other := some "description" }, "emoji", "equality", "amount", "regex", "sound_file"]

def amount? (t : Tree) : Option AmountEntry :=
  (t.uint64?.map .number) <|> (t.text?.map .text)

def ofTree? (t : Tree) : Option Entry := do
  let r ← t.record? fields
  return {
    name := ← r.field "name" "" Tree.text?
    emoji := ← r.field "emoji" "" Tree.text?
    equality := ← r.optional "equality" Tree.text?
    amount := ← r.optional "amount" amount?
    regex := ← r.optional "regex" Tree.text?
    soundFile := ← r.optional "sound_file" Tree.text? }

end Entry

/-- Why an entry makes no rule. -/
inductive RuleError where
  | missingPredicate (name : String)
  | unknownEquality (name equality : String)
  | invalidAmount (name : String)
  | invalidPattern (name : String)
deriving DecidableEq

def RuleError.message : RuleError → String
  | .missingPredicate name => "rule '" ++ name ++ "' has no equality or regex"
  | .unknownEquality name equality => "rule '" ++ name ++ "' uses unknown equality '" ++ equality ++ "'"
  | .invalidAmount name => "rule '" ++ name ++ "' has an invalid amount"
  | .invalidPattern name => "rule '" ++ name ++ "' has an invalid pattern"

namespace Rule

/-- The predicate of an entry without pattern. The sign `=~` looks for the digits themselves. -/
def predicateOf (name equality : String) (digits : List Char) : Except RuleError Predicate :=
  if Text.trim equality = "=~" then
    match BoostFeed.Number.digitsOfText? digits with
    | some ds => .ok (.pattern (String.ofList digits) (.literal ds))
    | none => .error (.invalidAmount name)
  else match Comparison.parse? equality with
    | none => .error (.unknownEquality name equality)
    | some c =>
      match Text.uint64? digits with
      | some bound => .ok (.compare c bound)
      | none => .error (.invalidAmount name)

/-- The predicate of an entry. A pattern that is not empty wins over a comparison. -/
def predicate? (e : Entry) : Except RuleError Predicate :=
  match e.regex.filter (· ≠ "") with
  | some text =>
    match Pattern.read? text with
    | some p => .ok (.pattern text p)
    | none => .error (.invalidPattern e.name)
  | none =>
    match e.equality, e.amount.bind AmountEntry.digits? with
    | none, _ => .error (.missingPredicate e.name)
    | some _, none => .error (.invalidAmount e.name)
    | some equality, some digits => predicateOf e.name equality digits

def ofEntry (e : Entry) : Except RuleError Rule := do
  let predicate ← predicate? e
  return { name := e.name, emoji := e.emoji, soundFile := e.soundFile.filter (· ≠ ""), predicate }

/-- The rules of a list of entries; an entry that makes no rule is left out. -/
def ofEntries (es : List Entry) : List Rule := es.filterMap fun e => (ofEntry e).toOption

/-- The rules of a written list. All its entries must be entries of some kind. -/
def listOfTree? (t : Tree) : Option (List Rule) := (t.list? Entry.ofTree?).map ofEntries

/-- The rules that a text lists. -/
def readList? (s : String) : Option (List Rule) := (Tree.read? s).bind listOfTree?

end Rule

end BoostFeed.Numerology
