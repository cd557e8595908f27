import BoostFeed.Setup.CommandLine
import BoostFeed.Text.Blank
import BoostFeed.Text.LetterTable

/-! A file of variables, one `NAME=value` a line, with comments, two kinds of quotes, and earlier variables
put in with a dollar. Variables that are already set stay. Reading ends at the first malformed line. -/

namespace BoostFeed.EnvFile

open Text

/-- Where the end of a line is looked for: an escape or an open quote carries it over a line break. -/
inductive Scan where
  | plain
  | blank
  | escape
  | strong
  | strongEscape
  | weak
  | weakEscape
deriving DecidableEq

/-- A character of plain text. -/
def Scan.start (c : Char) : Scan :=
  match c with
  | '\\' => .escape
  | '"' => .weak
  | '\'' => .strong
  | _ => .plain

def Scan.step (s : Scan) (c : Char) : Scan :=
  match s with
  | .plain => if isBlank c && c ≠ '\n' && c ≠ '\r' then .blank else .start c
  | .blank => .start c
  | .escape => .plain
  | .strong => if c = '\\' then .strongEscape else if c = '\'' then .plain else .strong
  | .strongEscape => .strong
  | .weak => if c = '\\' then .weakEscape else if c = '"' then .plain else .weak
  | .weakEscape => .weak

/-- Cuts a text into its lines, without their comments; `before` is what the line holds so far, last first,
and `comment` whether a comment runs. A line that is not complete at the end of the text is dropped. -/
def lines (s : Scan) (before : List Char) (comment : Bool) : List Char → List (List Char)
  | [] => if s = .plain then [before.reverse] else []
  | c :: cs =>
    if comment then
      if c = '\n' then before.reverse :: lines .plain [] false cs else lines .plain before true cs
    else if c = '#' ∧ (s = .blank ∨ before.all isBlank) then
      lines .plain before true cs
    else
      let s := s.step c
      if c = '\n' ∧ s = .plain then before.reverse :: lines .plain [] false cs
      else lines s (c :: before) false cs

/-- The name at the start of a line, and the rest. -/
def name? (cs : List Char) : Option (String × List Char) :=
  match cs with
  | c :: _ =>
    if c.isAlpha || c = '_' then
      let inName := fun (c : Char) => c.isAlphanum || c = '_' || c = '.'
      some (String.ofList (cs.takeWhile inName), cs.dropWhile inName)
    else none
  | [] => none

/-- A name that is to be replaced by its value, last character first. -/
inductive Insert where
  | none
  /-- After a dollar. -/
  | bare (name : List Char)
  /-- Between braces. -/
  | braced (name : List Char)

/-- A value read so far; `out` is last first. -/
structure ValueReader where
  out : List Char := []
  insert : Insert := .none
  strong : Bool := false
  weak : Bool := false
  escaped : Bool := false
  /-- Only blanks and a comment may follow. -/
  ended : Bool := false

namespace ValueReader

def push (r : ValueReader) (c : Char) : ValueReader := { r with out := c :: r.out }

/-- Puts in the value of a variable; one that is not set is empty. -/
def put (r : ValueReader) (vars : Variables) (name : List Char) : ValueReader :=
  let value := (vars.lookup (String.ofList name.reverse)).getD ""
  { r with out := value.toList.reverse ++ r.out, insert := .none }

/-- A character within a name to be replaced. -/
def inName (r : ValueReader) (vars : Variables) (c : Char) : ValueReader :=
  match r.insert with
  | .bare name =>
    if isLetterOrNumeral c then { r with insert := .bare (c :: name) }
    else if c = '\x7b' ∧ name = [] then { r with insert := .braced [] }
    else
      let r := r.put vars name
      if c = '$' then { r with insert := .bare [] } else r.push c
  | .braced name =>
    if c = '\x7d' then r.put vars name else { r with insert := .braced (c :: name) }
  | .none => r

/-- A character outside quotes. -/
def unquoted (r : ValueReader) (c : Char) : ValueReader :=
  match c with
  | '\'' => { r with strong := true }
  | '"' => { r with weak := true }
  | '\\' => { r with escaped := true }
  | ' ' | '\t' => { r with ended := true }
  | _ => r.push c

/-- What an escaped character stands for. -/
def unescape? (c : Char) : Option Char :=
  if c = 'n' then some '\n'
  else if c = '\\' ∨ c = '\'' ∨ c = '"' ∨ c = '$' ∨ c = ' ' then some c
  else none

/-- Reads the characters of a value. -/
def run (vars : Variables) (r : ValueReader) : List Char → Option ValueReader
  | [] => some r
  | c :: cs =>
    if r.ended then
      if c = ' ' ∨ c = '\t' then run vars r cs else if c = '#' then some r else none
    else if r.escaped then
      (unescape? c).bind fun c => run vars { r.push c with escaped := false } cs
    else if r.strong then
      run vars (if c = '\'' then { r with strong := false } else r.push c) cs
    else match r.insert with
      | .bare _ | .braced _ => run vars (r.inName vars c) cs
      | .none =>
        if c = '$' then run vars { r with insert := .bare [] } cs
        else if r.weak then
          run vars (if c = '"' then { r with weak := false }
            else if c = '\\' then { r with escaped := true } else r.push c) cs
        else run vars (r.unquoted c) cs

/-- The value at the end of its line. Quotes and braces must be closed. -/
def finish (vars : Variables) (r : ValueReader) : Option String :=
  if r.strong || r.weak then none
  else match r.insert with
    | .braced _ => none
    | .bare name => some (String.ofList (r.put vars name).out.reverse)
    | .none => some (String.ofList r.out.reverse)

end ValueReader

def value? (vars : Variables) (cs : List Char) : Option String :=
  (ValueReader.run vars {} cs).bind (ValueReader.finish vars)

def equals? : List Char → Option (List Char)
  | '=' :: cs => some cs
  | _ => none

/-- The name in a line and what follows the equals sign. The word `export` may stand before the name, or
be the name. -/
def assignment? (cs : List Char) : Option (String × List Char) := do
  let (name, rest) ← name? cs
  let rest := rest.dropWhile isBlank
  match equals? rest with
  | some rest => return (name, rest)
  | none =>
    guard (name = "export")
    let (name, rest) ← name? rest
    return (name, ← equals? (rest.dropWhile isBlank))

/-- Whether a text holds nothing, or a comment. -/
def isVoid (cs : List Char) : Bool :=
  match cs with
  | [] | '#' :: _ => true
  | _ => false

/-- What a line sets, if anything; `none` for a malformed one. -/
def line? (vars : Variables) (cs : List Char) : Option (Option (String × String)) :=
  let cs := trimmed cs
  if isVoid cs then some none
  else do
    let (name, rest) ← assignment? cs
    let rest := rest.dropWhile isBlank
    return some (name, ← if isVoid rest then some "" else value? vars rest)

/-- Sets what the lines say, up to the first malformed one. -/
def setLines (vars : Variables) : List (List Char) → Variables
  | [] => vars
  | l :: ls =>
    match line? vars l with
    | none => vars
    | some none => setLines vars ls
    | some (some (name, value)) =>
      setLines (if (vars.lookup name).isSome then vars else vars ++ [(name, value)]) ls

/-- The words of a text that may be names of variables, where it sets them or puts them in. -/
def mentioned (text : String) : List String :=
  let words := fun (inName : Char → Bool) =>
    (pieces (fun c => !inName c) text.toList).map String.ofList
  words isLetterOrNumeral ++ words fun c => isLetterOrNumeral c || c = '_' || c = '.'

/-- The variables together with those of a file. -/
def load (vars : Variables) (text : String) : Variables :=
  let cs := text.toList
  setLines vars (lines .plain [] false (if cs.head? = some '\ufeff' then cs.tail else cs))

end BoostFeed.EnvFile
