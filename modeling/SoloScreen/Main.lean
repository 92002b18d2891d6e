import SoloScreen.Arguments
import SoloScreen.Config.Load
import SoloScreen.Simulation

/-!
# The program

Loads the configuration, watches the desktop with the monitoring service, and writes its
notifications as a log to standard error. The program ends when its standard input does, and the
service is shut down.

This is the thin outer layer, and what it leaves out is the following.

* The calls of a real window system. The desktop is the emulated one with its demonstration
  scenario, whether that was asked for or not; what the theorems say of an arbitrary `WindowSystem`
  does not depend on it.
* The log, but for the notifications and the number of those that were lost: what the components
  write about their own work, the format of the log and its filters. Of the configuration of the log
  only the level is used; the rest is loaded and checked like everything else.
* Signals. The end of the input takes the place of the request to end that a user gives, and there
  is no waiting for the delivery of the last notifications, which are written at once.
* Of the command line, everything but the four options: the text of the help, and the suggestions
  that go with an error.

Nothing of this module is reasoned about. What it calls is: the simulation, the service in it, and
`Config.load`.
-/

open SoloScreen

namespace SoloScreen.Main

/-- The environment variables that can set something. Variables are asked for by name, so only these
spellings count here. -/
def variableNames : List String :=
  ["FSM_LOGGING", "FSM_LOGGING__LEVEL", "FSM_LOGGING__FORMAT", "FSM_LOGGING__FILTER", "FSM_MONITOR",
    "FSM_MONITOR__TARGET_PROCESSES", "FSM_MONITOR__POLL_INTERVAL_MS",
    "FSM_MONITOR__RESTORE_ON_FULL_SCREEN_EXIT", "FSM_MONITOR__RESTORE_ON_SETTINGS_CLOSED",
    "FSM_MONITOR__RESTORE_ON_APP_EXIT"]

/-- Load the configuration from the file at a path, if there is one, and the environment. -/
def loadConfig (path : String) : IO (Except Config.LoadError Config) := do
  let file ← try some <$> IO.FS.readFile path catch _ => pure none
  let given ← variableNames.filterMapM fun name => do
    pure ((← IO.getEnv name).map fun value => (name, value))
  pure (Config.load file given)

/-- What is reported when no configuration can be loaded. -/
def describe (path : String) : Config.LoadError → String
  | .invalid chain => chain.display
  | _ => "Не удалось загрузить конфигурацию из \"" ++ path ++ "\""

/-- Log a line, if its level is high enough. -/
def log (threshold level line : String) : IO Unit := do
  if Config.levels.idxOf threshold ≤ Config.levels.idxOf level then
    IO.eprintln (level ++ " " ++ line)

/-- Run an action on a simulation. -/
def perform {α : Type} (act : Action Simulation α) (sim : IO.Ref Simulation) :
    IO (Except Overflow α) :=
  sim.modifyGet act.exec

/-- Log what the service has published. -/
def logNotifications (threshold : String) (sim : IO.Ref Simulation) : IO Unit := do
  match ← perform Simulation.receive sim with
  | .error _ => pure ()
  | .ok received =>
    for message in received do
      match message with
      | .message (.errorOccurred text) =>
        log threshold "warn" ("Уведомление: " ++ (Notification.errorOccurred text).display)
      | .message notification => log threshold "info" ("Уведомление: " ++ notification.display)
      | .lagged lost => log threshold "warn" ("Пропущено уведомлений: " ++ toString lost)
      | _ => pure ()

/-- Read standard input to its end. -/
partial def untilEnd (input : IO.FS.Stream) : IO Unit := do
  unless (← input.getLine).isEmpty do untilEnd input

/-- Let time pass, a millisecond at a time: the snapshot grows older, and what is due runs. -/
def elapse (milliseconds : Nat) : Action Simulation Unit := do
  Simulation.settle
  Action.times milliseconds do
    Simulation.changeDesktop fun desktop => { desktop with time := desktop.time + 1000000 }
    Simulation.waitOnce

/-- Let the simulation follow the real time, which was last `now`, until the end of the input. -/
partial def watch (threshold : String) (ended : Task (Except IO.Error Unit))
    (sim : IO.Ref Simulation) (now : Nat) : IO Unit := do
  logNotifications threshold sim
  unless ← IO.hasFinished ended do
    IO.sleep 50
    let later ← IO.monoMsNow
    let _ ← perform (elapse (later - now)) sim
    watch threshold ended sim later

/-- Print the processes that have visible windows. -/
def listProcesses (sim : IO.Ref Simulation) : IO Unit := do
  match ← perform Simulation.view sim with
  | .error overflow => throw (IO.userError overflow.message)
  | .ok view => for name in view.processes do IO.println name

/-- Watch the desktop until the end of the input. -/
def monitor (config : Config) (threshold : String) (sim : IO.Ref Simulation) : IO Unit := do
  let _ ← perform (Simulation.newService config.monitor) sim
  let _ ← perform (Simulation.onService Service.start) sim
  let ended ← IO.asTask (untilEnd (← IO.getStdin))
  watch threshold ended sim (← IO.monoMsNow)
  let _ ← perform (Simulation.onService Service.shutdown) sim
  let _ ← perform Simulation.dropService sim
  logNotifications threshold sim

/-- Run the program with its options. -/
def run (arguments : Arguments) : IO UInt32 := do
  match ← loadConfig arguments.config with
  | .error error =>
    IO.eprintln ("Error: " ++ describe arguments.config error)
    pure 1
  | .ok config =>
    let sim ← IO.mkRef (Simulation.backend arguments.dryRun)
    if arguments.listProcesses then listProcesses sim
    else monitor config (arguments.logLevel.getD config.logging.level) sim
    pure 0

end SoloScreen.Main

/-- The program. -/
def main (arguments : List String) : IO UInt32 := do
  match Arguments.parse {} (Arguments.separated arguments) with
  | .error fault =>
    IO.eprintln ("error: " ++ fault.message)
    pure 2
  | .ok arguments => SoloScreen.Main.run arguments
