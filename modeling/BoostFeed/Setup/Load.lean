import BoostFeed.Setup.EnvFile
import BoostFeed.Setup.Resolve

/-! Loading a setup: the built-in layer, then the settings file, then variables and command line. -/

namespace BoostFeed

/-- Why there is no setup. -/
inductive SetupError where
  | usage (e : UsageError)
  | option (e : OptionError)
deriving DecidableEq

/-- What a program finds around it. -/
structure Surroundings where
  environment : Variables := []
  /-- The text of a file where it can be read. -/
  file? : String → Option String := fun _ => none

namespace Surroundings

def defaultSettingsFile : String := "boostwatch.json"

def envFile : String := ".env"

/-- The surroundings with the variables of the file for them. -/
def withEnvFile (s : Surroundings) : Surroundings :=
  match s.file? envFile with
  | some text => { s with environment := EnvFile.load s.environment text }
  | none => s

/-- The layer of a settings file. A file that is missing or cannot be read sets nothing. -/
def settingsFile (s : Surroundings) (path : String) : Layer :=
  ((s.file? path).bind Layer.read?).getD {}

/-- The settings file that a command line names. -/
def settingsPath (s : Surroundings) (args : List String) : String :=
  match readCommandLine s.environment args with
  | .ok layer => layer.configPath.getD defaultSettingsFile
  | .error _ => defaultSettingsFile

/-- The setup for a command line, without the name of the program. -/
def load (s : Surroundings) (args : List String) : Except SetupError Setup :=
  match readCommandLine s.environment args with
  | .error e => .error (.usage e)
  | .ok upper =>
    let lower := s.settingsFile (upper.configPath.getD defaultSettingsFile)
    match (lower.merge upper).resolve with
    | .error e => .error (.option e)
    | .ok setup => .ok setup

end Surroundings

end BoostFeed
