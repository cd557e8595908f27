import BoostFeed.Setup.Options

/-! Reading a command line. An option waits for its value until something else comes; only then is the
value looked at. -/

namespace BoostFeed

/-- Variables by name. -/
abbrev Variables := List (String × String)

/-- A command line read so far. -/
structure CommandLine where
  layer : Layer := {}
  /-- The options with a value. -/
  given : List OptionKey := []
  /-- An option not yet set, and its value where it has come. -/
  pending : Option (OptionKey × Option String) := none
  /-- After `--` nothing is an option any more. -/
  closed : Bool := false

namespace CommandLine

/-- Gives an option its value. -/
def assign (c : CommandLine) (k : OptionKey) : Option String → Except UsageError CommandLine
  | none => .error .invalidValue
  | some value =>
    if k ∈ c.given then .error .argumentConflict
    else do return { c with layer := ← c.layer.set k value, given := k :: c.given }

/-- Sets the option that waits. -/
def settle (c : CommandLine) : Except UsageError CommandLine :=
  match c.pending with
  | none => .ok c
  | some (k, value) => assign { c with pending := none } k value

/-- A flag that ends the reading. -/
def ending (c : CommandLine) (e : UsageError) : Except UsageError CommandLine := do
  let _ ← c.settle
  .error e

/-- An argument that starts with two dashes; a value may be attached to it. -/
def long (c : CommandLine) (name : String) (value : Option String) : Except UsageError CommandLine :=
  match OptionKey.ofFlag? name with
  | some k => do
    let c ← c.settle
    match value with
    | some _ => c.assign k value
    | none => return { c with pending := some (k, none) }
  | none =>
    if name = "help" ∨ name = "version" then
      if value.isSome then .error .tooManyValues
      else c.ending (if name = "help" then .displayHelp else .displayVersion)
    else .error .unknownArgument

/-- An argument that starts with one dash. -/
def short (c : CommandLine) : Char → Except UsageError CommandLine
  | 'h' => c.ending .displayHelp
  | 'V' => c.ending .displayVersion
  | _ => .error .unknownArgument

/-- An argument that is no option: the value of the option before it. -/
def plain (c : CommandLine) (arg : String) : Except UsageError CommandLine :=
  match c.pending with
  | some (k, none) => .ok { c with pending := some (k, some arg) }
  | _ => .error .unknownArgument

/-- The parts of a text before and after the first equals sign. -/
def splitEquals (cs : List Char) : String × Option String :=
  let name := String.ofList (cs.takeWhile (· ≠ '='))
  match cs.dropWhile (· ≠ '=') with
  | _ :: value => (name, some (String.ofList value))
  | [] => (name, none)

def step (c : CommandLine) (arg : String) : Except UsageError CommandLine :=
  if c.closed then .error .unknownArgument
  else match arg.toList with
    | ['-', '-'] => .ok { c with closed := true }
    | '-' :: '-' :: rest =>
      let (name, value) := splitEquals rest
      c.long name value
    | '-' :: letter :: _ => c.short letter
    | _ => c.plain arg

/-- Sets the options that no flag set from their variables. -/
def fill (c : CommandLine) (vars : Variables) : Except UsageError Layer :=
  OptionKey.all.foldlM (fun layer k =>
    if k ∈ c.given then .ok layer
    else match vars.lookup k.variableName with
      | some value => layer.set k value
      | none => .ok layer) c.layer

end CommandLine

/-- The layer of a command line, without the name of the program, and of the variables around it. -/
def readCommandLine (vars : Variables) (args : List String) : Except UsageError Layer := do
  let c ← args.foldlM CommandLine.step {}
  (← c.settle).fill vars

end BoostFeed
