import BoostFeed.Logging.Filter

/-! Setting up the log: a directory for the daily files, and a filter. A program sets it up once. -/

namespace BoostFeed.Logging

structure LogOptions where
  /-- The filter where no variable names another. -/
  level : String := "info"
  logDir : String := "logs"
  /-- What the names of the files start with. -/
  filePrefix : String := "boostwatch"
  /-- Whether records are also shown on the console. -/
  console : Bool := true

inductive LogError where
  /-- The directory's place is taken by a file. -/
  | taken
  /-- A file lies on the way to the directory. -/
  | blocked
  | filter (e : FilterError)
  | alreadySet
deriving DecidableEq

def LogError.message : LogError → String
  | .taken => "File exists (os error 17)"
  | .blocked => "Not a directory (os error 20)"
  | .filter e => e.message
  | .alreadySet => "a global default trace dispatcher has already been set"

/-- The variable that takes the place of the configured filter. -/
def filterVariable : String := "RUST_LOG"

namespace LogOptions

/-- The directories that lead to a path, from the outermost to the one it names. -/
def directories (path : String) : List String :=
  let parts := (path.splitOn "/").filter fun part => part ≠ "" && part ≠ "."
  let root := if path.toList.head? = some '/' then "/" else ""
  (List.range parts.length).map fun n => root ++ "/".intercalate (parts.take (n + 1))

/-- The paths that must not be files for the directory to be made. -/
def paths (o : LogOptions) : List String := directories o.logDir

/-- Makes the directory, given which paths are files. -/
def makeDirectory (o : LogOptions) (isFile : String → Bool) : Except LogError Unit :=
  match o.paths.reverse with
  | [] => .ok ()
  | path :: around =>
    if around.any isFile then .error .blocked else if isFile path then .error .taken else .ok ()

/-- The filter in force: that of the variable if it can be read, else the configured one. -/
def filter (o : LogOptions) (override? : Option String) : Except FilterError Filter :=
  match override?.map Filter.read with
  | some (.ok f) => .ok f
  | _ => Filter.read o.level

/-- Sets up the log, unless that was done before. -/
def setUp (o : LogOptions) (isFile : String → Bool) (override? : Option String) (done : Bool) :
    Except LogError Filter := do
  o.makeDirectory isFile
  match o.filter override? with
  | .error e => .error (.filter e)
  | .ok f => if done then .error .alreadySet else .ok f

/-- The name of the file of a day. -/
def fileName (o : LogOptions) (day : String) : String :=
  if o.filePrefix = "" then day else o.filePrefix ++ "." ++ day

end LogOptions

end BoostFeed.Logging
