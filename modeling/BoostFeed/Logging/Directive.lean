import BoostFeed.Logging.Record
import BoostFeed.Numerology.Pattern.Reader

/-! Directives of a log filter: a target, a span with fields in brackets, and after an equals sign a level.
Any part may be missing; without a level everything passes. -/

namespace BoostFeed.Logging

/-- A field that a directive asks for, and the value it must match. -/
structure FieldMatch where
  name : String
  value : Option String

structure Directive where
  /-- The most verbose level let through. -/
  verbosity : Nat := 5
  target : Option String := none
  span : Option String := none
  fields : List FieldMatch := []

inductive FilterError where
  | level
  | directive
  | field
deriving DecidableEq

def FilterError.message : FilterError → String
  | .level => "error parsing level filter: expected one of \"off\", \"error\", \"warn\", \"info\", " ++
      "\"debug\", \"trace\", or a number 0-5"
  | .directive => "invalid filter directive"
  | .field => "invalid field filter"

/-- The verbosity that a level's name or number stands for. -/
def verbosity? (cs : List Char) : Option Nat :=
  match Text.natural? cs with
  | some n => if n ≤ 5 then some n else none
  | none =>
    match String.ofList (Text.asciiLower cs) with
    | "off" => some 0
    | "error" => some 1
    | "warn" => some 2
    | "info" => some 3
    | "debug" => some 4
    | "trace" => some 5
    | _ => none

namespace FieldMatch

/-- Whether a value is a number or a pattern. -/
def isValue (cs : List Char) : Bool :=
  (Text.integer? cs).isSome || (Numerology.Pattern.read? (String.ofList cs)).isSome

/-- A field as written: a name, and after an equals sign a value. -/
def read (cs : List Char) : Except FilterError FieldMatch :=
  match Text.pieces (· = '=') cs with
  | name :: value :: _ =>
    if isValue value then .ok ⟨String.ofList name, some (String.ofList value)⟩ else .error .field
  | _ => .ok ⟨String.ofList cs, none⟩

end FieldMatch

/-- What part of a directive is read, and where in the text that part started. -/
inductive Part where
  | start
  | word (start : Nat)
  | span (start : Nat)
  | field (start : Nat)
  | fieldsDone
  | spanDone
  | level (start : Nat)

namespace Directive

/-- The characters of a text from one position to another. -/
def slice (text : List Char) (first last : Nat) : List Char := (text.drop first).take (last - first)

/-- One character of a directive. Positions count from the first character that is no blank, but parts are
cut from the text with its blanks, so a directive with blanks around it names other parts. -/
def step (text : List Char) (d : Directive) (part : Part) (i : Nat) (c : Char) :
    Except FilterError (Directive × Part) :=
  let since := fun (start : Nat) => String.ofList (slice text start i)
  match part with
  | .start =>
    if c = '[' then .ok (d, .span (i + 1))
    else if c = '-' ∨ c = ':' ∨ c = '_' ∨ Text.isLetterOrNumeral c then .ok (d, .word i)
    else .error .directive
  | .word start =>
    if c = '=' then .ok ({ d with target := since start }, .level (i + 1))
    else if c = '[' then .ok ({ d with target := since start }, .span (i + 1))
    else .ok (d, part)
  | .span start =>
    if c = ']' then .ok ({ d with span := since start }, .spanDone)
    else if c = '\x7b' then
      .ok ({ d with span := if since start = "" then none else some (since start) }, .field (i + 1))
    else .ok (d, part)
  | .field start =>
    if c = '\x7d' then do
      if start = i then throw .directive
      return ({ d with fields := d.fields ++ [← FieldMatch.read (slice text start i)] }, .fieldsDone)
    else .ok (d, part)
  | .fieldsDone => if c = ']' then .ok (d, .spanDone) else .error .directive
  | .spanDone => if c = '=' then .ok (d, .level (i + 1)) else .error .directive
  | .level _ => .ok (d, part)

/-- What the last part means at the end of the text. A word alone is a level, or else a target. -/
def finish (text : List Char) (d : Directive) : Part → Except FilterError Directive
  | .word start =>
    let word := text.drop start
    match verbosity? word with
    | some verbosity => .ok { d with verbosity }
    | none => .ok { d with target := String.ofList word }
  | .level start =>
    match text.drop start with
    | [] => .ok d
    | word =>
      match verbosity? word with
      | some verbosity => .ok { d with verbosity }
      | none => .error .level
  | .spanDone => .ok d
  | _ => .error .directive

def run (text : List Char) (d : Directive) (part : Part) (i : Nat) :
    List Char → Except FilterError Directive
  | [] => d.finish text part
  | c :: cs => do
    let (d, part) ← d.step text part i c
    d.run text part (i + 1) cs

/-- The directive that a text without commas writes. -/
def read (text : List Char) : Except FilterError Directive :=
  run text {} .start 0 (Text.trimmed text)

end Directive

end BoostFeed.Logging
