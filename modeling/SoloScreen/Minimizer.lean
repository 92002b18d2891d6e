import SoloScreen.Workspace

/-!
# The minimizer

The minimizer gets windows out of the way and brings back exactly those that it got out of the way
itself. It remembers them in a list, which lives for one episode: `minimizeOnMonitor` begins one,
`minimizeBeside` adds to it, `restore` ends it. Before a window is minimized its state is asked for
again, because the snapshot may be old: a window that the user has minimized in the meantime does
not enter the list and is never restored.
-/

namespace SoloScreen

/-- The windows minimized in the current episode, in the order they were. -/
structure Minimizer where
  hidden : List WindowHandle := []
  deriving DecidableEq, Repr

namespace Minimizer

variable {σ : Type} [WindowSystem σ]

/-- The window is, right now, visible, not a system window, and not minimized. -/
def isEligible (window : WindowHandle) : Action σ Bool := do
  if ← Native.visible window then
    match ← (Native.isSystemWindow window).run with
    | .ok false =>
      match ← (Native.placement window).run with
      | .ok state => pure (state != .minimized)
      | .error _ => pure false
    | _ => pure false
  else
    pure false

/-- Request a change of state; only a confirmed one counts. -/
def request (window : WindowHandle) (command : WindowCommand) : Action σ Bool := do
  match ← (Native.setState window command).run with
  | .ok confirmed => pure confirmed
  | .error _ => pure false

/-- Replace the list. -/
def setHidden (hidden : List WindowHandle) : Action (Minimizer × Workspace σ) Unit :=
  modify fun (_, work) => (⟨hidden⟩, work)

/-- The list. -/
def hiddenWindows : Action (Minimizer × Workspace σ) (List WindowHandle) := do
  pure (← get).1.hidden

/-- Minimize an eligible window and put it on the list. -/
def hide (window : WindowHandle) : Action (Minimizer × Workspace σ) Unit := do
  if ← isEligible window then
    if ← request window .minimize then
      setHidden ((← hiddenWindows) ++ [window])

/-- Begin an episode: minimize the windows of a monitor, without the excluded one. The answer is the
length of the list. -/
def minimizeOnMonitor (monitor : MonitorHandle) (exclude : Option WindowHandle) :
    Fallible (Minimizer × Workspace σ) Nat := do
  ExceptT.lift (setHidden [])
  let _ ← Native.monitorInfo monitor
  ExceptT.lift do
    Action.each (fun record => hide record.handle)
      (← (Workspace.windowsOn monitor exclude).onSecond)
    pure (← hiddenWindows).length

/-- Minimize a window that is eligible and whose process is not `spared`; it comes onto the list
unless it is there. Says whether it was minimized. -/
def hideAgain (spared : Option ProcessId) (record : WindowRecord) :
    Action (Minimizer × Workspace σ) Bool := do
  if some record.process = spared then
    pure false
  else if ← isEligible record.handle then
    if ← request record.handle .minimize then
      if !(← hiddenWindows).contains record.handle then
        setHidden ((← hiddenWindows) ++ [record.handle])
      pure true
    else
      pure false
  else
    pure false

/-- Minimize the windows that have come back on a monitor, except all those of the process that owns
`target`. The answer is how many were minimized. -/
def minimizeBeside (target : WindowHandle) (monitor : MonitorHandle) :
    Fallible (Minimizer × Workspace σ) Nat := do
  let _ ← Native.monitorInfo monitor
  ExceptT.lift do
    let owner ← (Native.process target).run
    Action.count (hideAgain owner.toOption)
      (← (Workspace.windowsOn monitor (some target)).onSecond)

/-- Bring a window back, if it still exists. -/
def unhide (window : WindowHandle) : Action (Minimizer × Workspace σ) Bool := do
  if ← Native.isWindow window then
    if ← Native.visible window then
      request window .restore
    else
      pure false
  else
    pure false

/-- End the episode: bring the windows of the list back. The list is empty afterwards, whatever the
answers. -/
def restore : Action (Minimizer × Workspace σ) Nat := do
  let windows ← hiddenWindows
  setHidden []
  Action.count unhide windows

/-- Forget the episode and leave the windows as they are. -/
def forget : Action (Minimizer × Workspace σ) Unit := setHidden []

end Minimizer

end SoloScreen
