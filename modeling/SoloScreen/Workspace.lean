import SoloScreen.Clock
import SoloScreen.Native
import SoloScreen.SnapshotCache

/-!
# The workspace

What the components of the service share: the window system, the snapshot cache in front of it, and
the clock of the timers. Here are the queries of the cache. Each of them first looks whether the
snapshot is stale and, if so, makes a new pass over the desktop (`Workspace.refresh`).

A pass that fails at the enumeration, or is cut short by an overflow, leaves the snapshot as it was.
A window about which any question fails is left out of the snapshot, and no other.
-/

namespace SoloScreen

/-- A window system with its snapshot cache and a clock for timers. -/
structure Workspace (σ : Type) where
  system : σ
  cache : SnapshotCache
  clock : Clock := {}

namespace Workspace

variable {σ : Type}

/-- An action on the window system itself. -/
def onSystem {α : Type} (act : Action σ α) : Action (Workspace σ) α :=
  act.within (·.system) fun system work => { work with system }

instance [WindowSystem σ] : WindowSystem (Workspace σ) where
  call call := onSystem (WindowSystem.call call)
  readClock := onSystem WindowSystem.readClock

/-- Arm a timer that is due after a delay. -/
def arm (delay : Nat) : Action (Workspace σ) Timer :=
  modifyGet fun work =>
    let (timer, clock) := work.clock.arm delay
    (timer, { work with clock })

/-- Change the cache. -/
def modifyCache (f : SnapshotCache → SnapshotCache) : Action (Workspace σ) Unit :=
  modify fun work => { work with cache := f work.cache }

/-- Forget the snapshot and the names. -/
def clearCache : Action (Workspace σ) Unit := modifyCache SnapshotCache.clear

variable [WindowSystem σ]

/-! ## A pass over the desktop -/

/-- The name of a process: the one known, otherwise the name of its program. A name that can be had
and is not empty is remembered. -/
def processName? (process : ProcessId) : Action (Workspace σ) (Option String) := do
  match (← get).cache.processNames.find? process with
  | some name => pure (some name)
  | none =>
    match ← (Native.imagePath process).run with
    | .error _ => pure none
    | .ok path =>
      if ProcessName.ofImagePath path = "" then
        pure none
      else
        modifyCache (·.remember process (ProcessName.ofImagePath path))
        pure (some (ProcessName.ofImagePath path))

/-- The record of an ordinary window. A window that is not visible, belongs to the system or whose
process has no name has none. -/
def inspect (capturedAt : Nat) (window : WindowHandle) :
    Fallible (Workspace σ) (Option WindowRecord) := do
  if ← ExceptT.lift (Native.visible window) then
    if ← Native.isSystemWindow window then
      pure none
    else
      let process ← Native.process window
      match ← ExceptT.lift (processName? process) with
      | none => pure none
      | some processName =>
        let state ← Native.placement window
        let bounds ← Native.bounds window
        let monitor ← Native.monitorOf window
        let title ← Native.title window
        pure (some { handle := window, process, processName, title, state, monitor, bounds,
                     visible := true, system := false, capturedAt })
  else
    pure none

/-- The record of a window, if it is an ordinary one and every question about it is answered. -/
def record? (capturedAt : Nat) (window : WindowHandle) :
    Action (Workspace σ) (Option WindowRecord) := do
  match ← (inspect capturedAt window).run with
  | .ok record => pure record
  | .error _ => pure none

/-- Make a pass over the desktop and take over its windows, unless they cannot be enumerated. -/
def refresh : Action (Workspace σ) Unit := do
  match ← Native.enumerate.run with
  | .error _ => pure ()
  | .ok handles =>
    let capturedAt ← WindowSystem.readClock
    let windows ← Action.collect (record? capturedAt) handles
    modifyCache (·.install capturedAt windows)

/-- There is no snapshot, or it is older than permitted. -/
def isStale : Action (Workspace σ) Bool := do
  match (← get).cache.lastRefresh with
  | none => pure true
  | some refreshed =>
    let now ← WindowSystem.readClock
    pure (decide ((← get).cache.staleness < now - refreshed))

/-! ## Queries -/

/-- The current snapshot; a stale one is replaced first. -/
def snapshot : Action (Workspace σ) WindowSnapshot := do
  if ← isStale then refresh
  pure (← get).cache.snapshot

/-- The windows of the current snapshot. -/
def windows : Action (Workspace σ) (List WindowRecord) := do
  pure (← snapshot).windows

/-- The windows on a monitor, without the excluded one. -/
def windowsOn (monitor : MonitorHandle) (exclude : Option WindowHandle) :
    Action (Workspace σ) (List WindowRecord) := do
  pure ((← windows).filter fun record => record.monitor = monitor ∧ some record.handle ≠ exclude)

/-- The windows of the processes with a name. An empty name has no windows and asks for none. -/
def windowsOf (name : String) : Action (Workspace σ) (List WindowRecord) := do
  if ProcessName.normalize name = "" then pure []
  else pure ((← windows).filter (·.processName = ProcessName.normalize name))

/-- The geometry of a monitor as found earlier in the same search, otherwise asked for now. A
monitor that could not be asked is not asked again. -/
def monitorOnce (known : Table MonitorHandle (Option MonitorInfo)) (monitor : MonitorHandle) :
    Action (Workspace σ) (Option MonitorInfo × Table MonitorHandle (Option MonitorInfo)) := do
  match known.find? monitor with
  | some info => pure (info, known)
  | none =>
    match ← (Native.monitorInfo monitor).run with
    | .ok info => pure (some info, known.insert monitor (some info))
    | .error _ => pure (none, known.insert monitor none)

/-- The first record that fills the work area of its monitor for a target, where `known` holds the
monitors already asked. -/
def firstFullScreen (targets : List String) :
    Table MonitorHandle (Option MonitorInfo) → List WindowRecord →
      Action (Workspace σ) (Option WindowRecord)
  | _, [] => pure none
  | known, record :: rest =>
    if record.isValid && record.isMaximized && targets.contains record.processName then do
      let (info, asked) ← monitorOnce known record.monitor
      if info.any record.isFullScreen then pure (some record)
      else firstFullScreen targets asked rest
    else firstFullScreen targets known rest

/-- The uppermost window of a target that fills the work area of its monitor. Without targets there
is none, and the snapshot is not looked at. -/
def findFullScreen (targets : List String) : Action (Workspace σ) (Option WindowRecord) := do
  if targets.isEmpty then pure none
  else firstFullScreen targets [] (← windows)

/-- The name of the process that owns a window, which need not be in the snapshot. -/
def ownerName? (window : WindowHandle) : Action (Workspace σ) (Option String) := do
  match (← snapshot).find? window with
  | some record => pure (some record.processName)
  | none =>
    match ← (Native.process window).run with
    | .ok process => processName? process
    | .error _ => pure none

/-- The names of all processes with windows, sorted. -/
def processNames : Action (Workspace σ) (List String) := do
  pure (← snapshot).processNames

end Workspace

end SoloScreen
