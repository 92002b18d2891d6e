import SoloScreen.Sighting
import SoloScreen.Workspace

/-!
# The detector

A machine with two states: some window of a watched process fills its monitor, or none does. At each
tick the detector looks for such a window (`Detector.tick`), reports a change of state, and, while a
window is full screen, reports when the focus goes to another window of a watched process.

The ticks come from a polling loop, which is a timer: started, it ticks at once and then after each
interval; a new interval counts from the moment it is set; an overflow in a tick ends the loop.

Orders reach the loop only after all that is due has run: a simulation settles after every command
(`Simulation.settle`), so a tick that is due comes before the next order. The timer is faithful
under this assumption and not beyond it. If a start is followed at once by a new interval, with
nothing run in between, `Detector.setInterval` arms the timer anew and the first tick is lost,
whereas a loop that reads its interval only when it is first run would take the new one and still
tick at once. Such sequences are not covered.
-/

namespace SoloScreen

/-- The state of a detector. -/
structure Detector where
  /-- The names of the watched processes. -/
  targets : List String
  /-- Some window is full screen. -/
  fullScreen : Bool := false
  /-- The full-screen window. -/
  window : Option WindowHandle := none
  /-- The monitor of the full-screen window. -/
  monitor : Option MonitorHandle := none
  /-- The foreground window that was looked at last. -/
  lastForeground : Option WindowHandle := none
  /-- The time between two ticks, in milliseconds. -/
  interval : Nat
  /-- The next tick of the polling loop, if it runs. -/
  loop : Option Timer := none
  deriving DecidableEq, Repr

namespace Detector

/-- The shortest interval, in milliseconds. -/
def minInterval : Nat := 100

/-- A detector for some processes; an interval that is too short is lengthened. -/
def watching (targets : List String) (interval : Nat) : Detector where
  targets := targets
  interval := max interval minInterval

/-- The full-screen window and its monitor. -/
def current? (detector : Detector) : Option (WindowHandle × MonitorHandle) :=
  match detector.window, detector.monitor with
  | some window, some monitor => some (window, monitor)
  | _, _ => none

/-- The polling loop runs. -/
def isRunning (detector : Detector) : Bool := detector.loop.isSome

/-- Continue an episode that another detector began: the window counts as seen. -/
def resume (window : WindowHandle) (monitor : MonitorHandle) (detector : Detector) : Detector :=
  { detector with fullScreen := true, window := some window, monitor := some monitor }

/-- Watch other processes from now on. -/
def retarget (targets : List String) (detector : Detector) : Detector := { detector with targets }

/-! ## One tick -/

/-- Take note of what was found: the event of a change of state, and the state after it. -/
def observe (found : Option WindowRecord) (detector : Detector) : List DetectorEvent × Detector :=
  if found.isSome = detector.fullScreen then ([], detector)
  else match found with
    | some record =>
      ([.fullScreenChanged
          (.entered record.handle record.monitor record.processName record.title)],
        { detector with
          fullScreen := true, window := some record.handle, monitor := some record.monitor })
    | none =>
      ([.fullScreenChanged .exited],
        { detector with
          fullScreen := false, window := none, monitor := none, lastForeground := none })

variable {σ : Type} [WindowSystem σ]

/-- Remember the foreground window. -/
def setLastForeground (window : WindowHandle) : Action (Detector × Workspace σ) Unit :=
  modify fun (detector, work) => ({ detector with lastForeground := some window }, work)

/-- The focus event, if the foreground window is not the one looked at last and belongs to a watched
process. -/
def checkFocus (targets : List String) :
    Fallible (Detector × Workspace σ) (Option DetectorEvent) := do
  match ← ExceptT.lift Native.foreground with
  | none => pure none
  | some foreground =>
    if (← ExceptT.lift get).1.lastForeground = some foreground then
      pure none
    else
      ExceptT.lift (setLastForeground foreground)
      match ← ExceptT.lift (Workspace.ownerName? foreground).onSecond with
      | none => pure none
      | some process =>
        if targets.contains process then
          match (← ExceptT.lift get).1.monitor with
          | none => throw (.internal "нет монитора полноэкранного окна")
          | some monitor =>
            let title ← Native.title foreground
            pure (some (.targetFocused (.entered foreground monitor process title)))
        else
          pure none

/-- One step of the machine, with its events in the order they arise. A detector without targets
does not look. A failed look at the focus is no event. -/
def tick : Action (Detector × Workspace σ) (List DetectorEvent) := do
  let targets := (← get).1.targets
  if targets.isEmpty then
    pure []
  else
    let found ← (Workspace.findFullScreen targets).onSecond
    let changes ← modifyGet fun (detector, work) =>
      let (changes, detector) := observe found detector
      (changes, (detector, work))
    if found.isSome then
      match ← (checkFocus targets).run with
      | .ok focus => pure (changes ++ focus.toList)
      | .error _ => pure changes
    else
      pure changes

/-! ## The polling loop -/

/-- Set the next tick of the loop. -/
def setLoop (timer : Option Timer) : Action (Detector × Workspace σ) Unit :=
  modify fun (detector, work) => ({ detector with loop := timer }, work)

/-- Let the loop tick after a delay. -/
def arm (delay : Nat) : Action (Detector × Workspace σ) Unit := do
  setLoop (some (← (Workspace.arm delay).onSecond))

/-- Start the polling loop with a tick at once, unless it runs; says whether it was started. -/
def start : Action (Detector × Workspace σ) Bool := do
  if (← get).1.isRunning then
    pure false
  else
    arm 0
    pure true

/-- End the polling loop. -/
def stop : Action (Detector × Workspace σ) Unit := setLoop none

/-- Set the interval; a running loop ticks next when it has passed. A tick that is due must have run
before: if a loop was started and nothing has run since, the tick that it was armed for is replaced
and lost. -/
def setInterval (interval : Nat) : Action (Detector × Workspace σ) Unit := do
  modify fun (detector, work) => ({ detector with interval := max interval minInterval }, work)
  if (← get).1.isRunning then arm (max interval minInterval)

/-- Go on after a tick: the loop ticks again after the interval, or ends if the tick overflowed. -/
def proceed (ticked : Except Overflow Unit) : Action (Detector × Workspace σ) Unit := do
  match ticked with
  | .ok () => arm (← get).1.interval
  | .error _ => stop

end Detector

end SoloScreen
