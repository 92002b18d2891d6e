import SoloScreen.Channel
import SoloScreen.Detector
import SoloScreen.Minimizer
import SoloScreen.Notification
import SoloScreen.Settings

/-!
# The monitoring service

The service ties detector and minimizer together as the settings say: when a window of a watched
process fills a monitor, the other windows of that monitor are minimized; when it does not any more,
they come back. What happens is published on a channel. A failure while an event is handled is
published too and goes no further.

Settings can be changed while the service runs. The interval and the targets are handed to the
running detector; any other change stops the session and starts a new one, which goes on with the
open episode.

An operation of the service runs to its end before the next one begins. That operations ordered at
the same time wait for each other, and by which locks, is not modelled, nor is what is written to a
log meanwhile.
-/

namespace SoloScreen

/-- The state of the service. -/
structure Service where
  /-- The settings in force, with the targets in normal form. -/
  settings : Settings
  /-- The minimizer, which outlives the sessions. -/
  minimizer : Minimizer := {}
  /-- The detector of the current session. -/
  detector : Option Detector := none
  /-- The monitoring was started and not stopped. -/
  monitoring : Bool := false
  /-- Some event of the detector has been handled. -/
  checked : Bool := false
  /-- The notifications published. -/
  channel : Channel Notification := { capacity := 64 }
  deriving DecidableEq, Repr

namespace Service

/-- A new service; the targets are brought into normal form. -/
def withSettings (settings : Settings) : Service where
  settings := settings.normalize

variable {σ α : Type}

/-! ## Parts of the service -/

/-- An action of the minimizer. -/
def onMinimizer (act : Action (Minimizer × Workspace σ) α) : Action (Service × Workspace σ) α :=
  act.within (fun p => (p.1.minimizer, p.2)) fun q p => ({ p.1 with minimizer := q.1 }, q.2)

/-- An action of a detector, which is the one of the session from then on. -/
def onDetector (detector : Detector) (act : Action (Detector × Workspace σ) α) :
    Action (Service × Workspace σ) α :=
  act.within (fun p => (detector, p.2)) fun q p => ({ p.1 with detector := some q.1 }, q.2)

/-- Change the service itself. -/
def update (f : Service → Service) : Action (Service × Workspace σ) Unit :=
  modify fun p => (f p.1, p.2)

/-- Read the service itself. -/
def read (f : Service → α) : Action (Service × Workspace σ) α := do
  pure (f (← get).1)

/-- Publish a notification. -/
def publish (notification : Notification) : Action (Service × Workspace σ) Unit :=
  update fun service => { service with channel := service.channel.send notification }

/-- Publish a failure. -/
def report (failure : Failure) : Action (Service × Workspace σ) Unit :=
  publish (.errorOccurred ("[" ++ failure.code ++ "] " ++ failure.message))

/-! ## Episodes -/

variable [WindowSystem σ]

/-- Bring the windows of the episode back. -/
def restoreWindows : Action (Service × Workspace σ) Nat := do
  let restored ← onMinimizer Minimizer.restore
  if 0 < restored then publish (.windowsRestored restored)
  pure restored

/-- Publish how many windows an operation of the minimizer got out of the way. -/
def announce (act : Fallible (Minimizer × Workspace σ) Nat) :
    Fallible (Service × Workspace σ) Unit := do
  let minimized ← ExceptT.mk (onMinimizer act.run)
  if 0 < minimized then ExceptT.lift (publish (.windowsMinimized minimized))

/-- Full screen began or ended. -/
def respondToChange (sighting : Sighting) : Fallible (Service × Workspace σ) Unit := do
  if sighting.fullScreen then
    match sighting.monitor with
    | none => throw (.monitoring "событие полноэкранного режима без монитора")
    | some monitor => announce (Minimizer.minimizeOnMonitor monitor sighting.window)
  else if ← ExceptT.lift (read (·.settings.restoreOnFullScreenExit)) then
    let _ ← ExceptT.lift restoreWindows

/-- The focus went to a window of a watched process. -/
def respondToFocus (sighting : Sighting) : Fallible (Service × Workspace σ) Unit := do
  match sighting.window, sighting.monitor with
  | some window, some monitor => announce (Minimizer.minimizeBeside window monitor)
  | _, _ => throw (.monitoring "событие фокуса без окна или монитора")

/-- Handle an event of the detector. -/
def handle (event : DetectorEvent) : Action (Service × Workspace σ) Unit := do
  update fun service => { service with checked := true }
  let response := match event with
    | .fullScreenChanged sighting => respondToChange sighting
    | .targetFocused sighting => respondToFocus sighting
  match ← response.run with
  | .ok () => pure ()
  | .error failure => report failure

/-! ## The polling loop -/

/-- One tick of the session's detector with the handling of its events. -/
def round : Action (Service × Workspace σ) Unit := do
  match ← read (·.detector) with
  | none => pure ()
  | some detector =>
    let events ← onDetector detector Detector.tick
    Action.each handle events

/-- The loop's timer is due: one round, and the loop goes on unless the round overflowed. -/
def poll : Action (Service × Workspace σ) Unit := do
  let ticked ← round.outcome
  match ← read (·.detector) with
  | none => pure ()
  | some detector => onDetector detector (Detector.proceed ticked)

/-! ## Commands -/

/-- Start a session, going on with an episode if there is one. A session that exists stays as it
is. -/
def startWith (episode : Option (WindowHandle × MonitorHandle)) :
    Action (Service × Workspace σ) Unit := do
  if (← read (·.detector)).isNone then
    let settings ← read (·.settings)
    let fresh := Detector.watching settings.targets settings.clampedInterval
    let detector := match episode with
      | some (window, monitor) => fresh.resume window monitor
      | none => fresh
    let _ ← onDetector detector Detector.start
    update fun service => { service with monitoring := true }
    publish (.monitoringChanged true)

/-- Start monitoring. -/
def start : Action (Service × Workspace σ) Unit := startWith none

/-- End the session; the answer is the full-screen window at which it ended. Minimized windows stay
minimized. -/
def stopWith : Action (Service × Workspace σ) (Option (WindowHandle × MonitorHandle)) := do
  match ← read (·.detector) with
  | none => pure none
  | some detector =>
    update fun service => { service with detector := none, monitoring := false }
    publish (.monitoringChanged false)
    pure detector.current?

/-- Stop monitoring. -/
def stop : Action (Service × Workspace σ) Unit := do
  let _ ← stopWith

/-- Apply a change of the settings to a session. -/
def applyChange (detector : Detector) (change : Settings.Change) (settings : Settings) :
    Action (Service × Workspace σ) Unit := do
  onDetector detector do
    if change.interval then Detector.setInterval settings.clampedInterval
    if change.targets then
      modify fun p => (p.1.retarget settings.targets, p.2)
  if change.restart then
    startWith (← stopWith)

/-- Replace the settings. New settings that do not pass the check are reported and change
nothing. -/
def updateSettings (settings : Settings) : Fallible (Service × Workspace σ) Unit := do
  let settings := settings.normalize
  match settings.check with
  | .error failure =>
    ExceptT.lift (report failure)
    throw failure
  | .ok () =>
    ExceptT.lift do
      let change := (← read (·.settings)).diff settings
      update fun service => { service with settings }
      if !change.isEmpty then
        match ← read (·.detector) with
        | none => pure ()
        | some detector => applyChange detector change settings

/-- The user asks for the windows. -/
def restoreManually : Action (Service × Workspace σ) Nat := restoreWindows

/-- The settings window was closed. -/
def settingsClosed : Action (Service × Workspace σ) Nat := do
  if ← read (·.settings.restoreOnSettingsClosed) then restoreWindows else pure 0

/-- The program ends: stop monitoring and, if the settings permit it, bring the windows back. -/
def shutdown : Action (Service × Workspace σ) Nat := do
  stop
  if ← read (·.settings.restoreOnAppExit) then restoreWindows else pure 0

end Service

end SoloScreen
