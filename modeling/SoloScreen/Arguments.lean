/-!
# Command line

The options of the program and how they are written.
-/

namespace SoloScreen

/-- The options of the program. -/
structure Arguments where
  /-- The path of the configuration file. -/
  config : String := "fsm.toml"
  /-- Use the emulated desktop. -/
  dryRun : Bool := false
  /-- A level of logging that takes the place of the configured one. -/
  logLevel : Option String := none
  /-- Print the processes that have visible windows, and end. -/
  listProcesses : Bool := false
  deriving DecidableEq, Repr

namespace Arguments

/-- Why a command line is not understood. -/
inductive Fault where
  /-- There is no such option. -/
  | unknown (argument : String)
  /-- The option needs a value. -/
  | valueMissing (option : String)
  deriving DecidableEq, Repr

/-- What is reported for a fault. -/
def Fault.message : Fault → String
  | .unknown argument => "unexpected argument '" ++ argument ++ "' found"
  | .valueMissing option => "a value is required for '" ++ option ++ "' but none was supplied"

/-- The options that are followed by a value. -/
def withValue : List String := ["--config", "-c", "--log-level"]

/-- A command line with `--option=value` written as two arguments. -/
def separated : List String → List String
  | [] => []
  | argument :: rest =>
    match withValue.find? fun option => (option ++ "=").isPrefixOf argument with
    | some option => option :: (argument.drop (option.length + 1)).toString :: separated rest
    | none => argument :: separated rest

/-- The options that a command line sets, on top of those already set. -/
def parse (sofar : Arguments) : List String → Except Fault Arguments
  | [] => .ok sofar
  | "--dry-run" :: rest => parse { sofar with dryRun := true } rest
  | "--list-processes" :: rest => parse { sofar with listProcesses := true } rest
  | "--config" :: value :: rest => parse { sofar with config := value } rest
  | "-c" :: value :: rest => parse { sofar with config := value } rest
  | "--log-level" :: value :: rest => parse { sofar with logLevel := some value } rest
  | argument :: _ =>
    if argument ∈ withValue then .error (.valueMissing argument)
    else .error (.unknown argument)

end Arguments

end SoloScreen
