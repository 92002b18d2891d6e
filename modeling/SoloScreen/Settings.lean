import SoloScreen.Failure
import SoloScreen.ProcessName

/-!
# Settings

The settings of the monitoring service: which processes are watched, how often, and when minimized
windows come back by themselves. Settings are brought into normal form (`Settings.normalize`),
checked (`Settings.check`), and two versions are compared (`Settings.diff`) to decide whether a
change can be applied to a running detector.
-/

namespace SoloScreen

/-- The settings of the monitoring service. -/
structure Settings where
  /-- The names of the watched processes. -/
  targets : List String := ["chrome", "firefox", "msedge"]
  /-- The time between two looks at the desktop, in milliseconds. -/
  pollInterval : Nat := 500
  /-- Bring windows back when full screen ends. -/
  restoreOnFullScreenExit : Bool := true
  /-- Bring windows back when the settings window is closed. -/
  restoreOnSettingsClosed : Bool := true
  /-- Bring windows back when the program ends. -/
  restoreOnAppExit : Bool := true
  deriving DecidableEq, Repr

namespace Settings

/-- The shortest poll interval, in milliseconds. -/
def minInterval : Nat := 100

/-- The longest poll interval, in milliseconds. -/
def maxInterval : Nat := 2000

/-- The poll interval brought into the permitted range. -/
def clampedInterval (settings : Settings) : Nat :=
  min (max settings.pollInterval minInterval) maxInterval

/-! ## Normal form -/

/-- Add a name in normal form after the others, unless it is empty or already there. -/
def addTarget (names : List String) (name : String) : List String :=
  let normal := ProcessName.normalize name
  if normal = "" ∨ normal ∈ names then names else names ++ [normal]

/-- The normal forms of the names, each where it came first, without empty ones. -/
def normalTargets (names : List String) : List String := names.foldl addTarget []

/-- The settings with their target names in normal form. -/
def normalize (settings : Settings) : Settings :=
  { settings with targets := normalTargets settings.targets }

/-! ## Checking -/

/-- What is wrong with settings. -/
inductive Fault where
  /-- The poll interval is outside the permitted range. -/
  | interval (found : Nat)
  /-- A target name is not acceptable; positions count from 1. -/
  | target (position : Nat) (fault : ProcessName.Fault)
  deriving DecidableEq, Repr

/-- What is reported for a fault. -/
def Fault.message : Fault → String
  | .interval found =>
    "poll_interval_ms должно быть в диапазоне " ++ toString minInterval ++ "..=" ++
      toString maxInterval ++ ", получено " ++ toString found
  | .target position fault => "процесс #" ++ toString position ++ ": " ++ fault.message

/-- The first fault among names, the first of which has the given position. -/
def targetFault? (position : Nat) : List String → Option Fault
  | [] => none
  | name :: rest =>
    match ProcessName.fault? name with
    | some fault => some (.target position fault)
    | none => targetFault? (position + 1) rest

/-- The first fault of settings; the interval comes before the names. -/
def fault? (settings : Settings) : Option Fault :=
  if settings.pollInterval < minInterval ∨ maxInterval < settings.pollInterval then
    some (.interval settings.pollInterval)
  else targetFault? 1 settings.targets

/-- Settings pass, or their first fault is the error. -/
def check (settings : Settings) : Except Failure Unit :=
  match settings.fault? with
  | none => .ok ()
  | some fault => .error (.settings fault.message)

/-! ## Comparing -/

/-- What differs between two versions of the settings. -/
structure Change where
  /-- The interval as written differs. -/
  interval : Bool
  /-- The list of targets differs. -/
  targets : Bool
  /-- Something differs that a running session cannot take over. -/
  restart : Bool
  deriving DecidableEq, Repr

/-- Nothing differs. -/
def Change.isEmpty (change : Change) : Bool :=
  !change.interval && !change.targets && !change.restart

/-- What differs between old and new settings. -/
def diff (old new : Settings) : Change where
  interval := old.pollInterval != new.pollInterval
  targets := old.targets != new.targets
  restart := old.restoreOnFullScreenExit != new.restoreOnFullScreenExit ||
    old.restoreOnSettingsClosed != new.restoreOnSettingsClosed ||
    old.restoreOnAppExit != new.restoreOnAppExit

end Settings

end SoloScreen
