import BoostFeed.Watch.Program
import BoostFeed.Setup.Load
import BoostFeed.Logging.Logger

/-! Launching the watcher from a command line: it runs, or ends at once with a word and an exit code. -/

namespace BoostFeed.Watch

open Logging

inductive Launch where
  | exits (code : Nat) (output errors : List String)
  | runs (p : Program)

namespace Launch

def version : String := "boostwatch 0.1.0"

/-- The lines of an option in the help. -/
def optionHelp (k : OptionKey) : List String :=
  let value := k.variableName.toList.drop "BOOSTWATCH_".length
  ["      --" ++ k.flag ++ " <" ++ String.ofList value ++ ">",
    "          " ++ k.help ++ " [env: " ++ k.variableName ++ "=]"]

def help : List String :=
  ["Live terminal timeline for a boost/stream payment feed", "", "Usage: boostwatch [OPTIONS]", "",
    "Options:"] ++ OptionKey.all.flatMap optionHelp ++
  ["  -h, --help", "          Print help", "  -V, --version", "          Print version"]

/-- What is said about a command line that is not acted on. -/
def usageMessage : UsageError → String
  | .unknownArgument => "unexpected argument"
  | .invalidValue => "invalid or missing value"
  | .valueValidation => "invalid number"
  | .argumentConflict => "an option was given twice"
  | .tooManyValues => "unexpected value"
  | .displayHelp | .displayVersion => ""

def ofUsage : UsageError → Launch
  | .displayHelp => .exits 0 help []
  | .displayVersion => .exits 0 [version] []
  | e => .exits 2 [] ["error: " ++ usageMessage e, "", "Usage: boostwatch [OPTIONS]", "",
      "For more information, try '--help'."]

/-- The log of the program goes to files only, for the terminal shows the timeline. -/
def logOptions (setup : Setup) : LogOptions :=
  { level := setup.logLevel, logDir := setup.logDir, console := false }

/-- The variables to look at for a launch, given the text of the file that may set some. -/
def variableNames (envText : String) : List String :=
  filterVariable :: Terminal.colorVariables ++ OptionKey.all.map OptionKey.variableName ++
    EnvFile.mentioned envText

/-- The files to look at for a launch, as far as the surroundings known so far tell. -/
def files (s : Surroundings) (args : List String) : List String :=
  let s := s.withEnvFile
  Surroundings.envFile :: s.settingsPath args ::
    match s.load args with
    | .ok setup => (logOptions setup).paths
    | .error _ => []

/-- Launches the program with the surroundings it finds. -/
def launch (s : Surroundings) (args : List String) (epoch : Int) (colors : Bool) : Launch :=
  let s := s.withEnvFile
  match s.load args with
  | .error (.usage e) => ofUsage e
  | .error (.option e) => .exits 2 [] ["Invalid configuration: " ++ e.message]
  | .ok setup =>
    match (logOptions setup).setUp (fun path => (s.file? path).isSome)
        (s.environment.lookup filterVariable) false with
    | .error e => .exits 1 [] ["Failed to initialize logging: " ++ e.message]
    | .ok _ => .runs (.start setup epoch colors)

end Launch

end BoostFeed.Watch
