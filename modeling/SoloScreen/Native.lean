import SoloScreen.Action
import SoloScreen.Failure
import SoloScreen.Text.Blank
import SoloScreen.Window

/-!
# The window system

The window system answers questions about windows, monitors and processes and changes how windows
are shown. Every question is a `NativeCall`, and the type of its answer depends on the question; a
`WindowSystem` is a type of states with an action for each call. The other modules reach the window
system through the short forms in the namespace `Native` and nothing else, so what a component
asked, in which order, is a list of calls.

No real window system stands behind this interface here. How one turns a call into calls of its own,
and which of them may fail and how, is not modelled; a window system is whatever answers. Two are
defined: the emulated desktop (`Desktop`) and the same with injected faults (`FaultyDesktop`). What
is stated for every `WindowSystem`, whatever it answers, holds of a real one as far as it answers
one call at a time, and what is stated of the emulated desktop says so.
-/

namespace SoloScreen

/-- A kind of question. -/
inductive Method where
  /-- All top-level windows, the uppermost first. -/
  | enumerate
  /-- There is such a window. -/
  | isWindow
  /-- The window is visible. -/
  | visible
  /-- The class of a window. -/
  | windowClass
  /-- The title of a window. -/
  | title
  /-- The window has the style of a tool window. -/
  | toolWindow
  /-- The process that owns a window. -/
  | process
  /-- The path of the image that a process runs. -/
  | imagePath
  /-- How a window is shown. -/
  | placement
  /-- The rectangle of a window. -/
  | bounds
  /-- The monitor that a window is on. -/
  | monitorOf
  /-- What is known of a monitor. -/
  | monitorInfo
  /-- A request to change how a window is shown, and whether it was done. -/
  | setState
  /-- The window in the foreground, if there is one. -/
  | foreground
  deriving DecidableEq, Repr

/-- What a successful call of a kind yields. -/
@[reducible] def Method.Value : Method → Type
  | .enumerate => List WindowHandle
  | .isWindow => Bool
  | .visible => Bool
  | .windowClass => String
  | .title => String
  | .toolWindow => Bool
  | .process => ProcessId
  | .imagePath => String
  | .placement => ShowState
  | .bounds => Rect
  | .monitorOf => MonitorHandle
  | .monitorInfo => MonitorInfo
  | .setState => Bool
  | .foreground => Option WindowHandle

/-- What a call of a kind answers. Three kinds always have an answer, the others may fail. -/
@[reducible] def Method.Answer : Method → Type
  | .isWindow => Bool
  | .visible => Bool
  | .foreground => Option WindowHandle
  | .enumerate => Except Failure (List WindowHandle)
  | .windowClass => Except Failure String
  | .title => Except Failure String
  | .toolWindow => Except Failure Bool
  | .process => Except Failure ProcessId
  | .imagePath => Except Failure String
  | .placement => Except Failure ShowState
  | .bounds => Except Failure Rect
  | .monitorOf => Except Failure MonitorHandle
  | .monitorInfo => Except Failure MonitorInfo
  | .setState => Except Failure Bool

/-- The answer that carries a value. -/
def Method.succeed : (method : Method) → method.Value → method.Answer
  | .isWindow, value => value
  | .visible, value => value
  | .foreground, value => value
  | .enumerate, value => .ok value
  | .windowClass, value => .ok value
  | .title, value => .ok value
  | .toolWindow, value => .ok value
  | .process, value => .ok value
  | .imagePath, value => .ok value
  | .placement, value => .ok value
  | .bounds, value => .ok value
  | .monitorOf, value => .ok value
  | .monitorInfo, value => .ok value
  | .setState, value => .ok value

/-- The answer of a call that goes wrong; a kind that cannot fail says no or nothing. -/
def Method.fail (failure : Failure) : (method : Method) → method.Answer
  | .isWindow => false
  | .visible => false
  | .foreground => none
  | .enumerate => .error failure
  | .windowClass => .error failure
  | .title => .error failure
  | .toolWindow => .error failure
  | .process => .error failure
  | .imagePath => .error failure
  | .placement => .error failure
  | .bounds => .error failure
  | .monitorOf => .error failure
  | .monitorInfo => .error failure
  | .setState => .error failure

/-- A question to the window system. -/
inductive NativeCall where
  /-- The top-level windows in Z-order, the uppermost first. -/
  | enumerate
  /-- There is such a window. -/
  | isWindow (window : WindowHandle)
  /-- The window is visible; a minimized one is. -/
  | visible (window : WindowHandle)
  /-- The name of the window's class. -/
  | windowClass (window : WindowHandle)
  /-- The title of the window. -/
  | title (window : WindowHandle)
  /-- The window is a tool window. -/
  | toolWindow (window : WindowHandle)
  /-- The process that owns the window. -/
  | process (window : WindowHandle)
  /-- The path of the program that a process runs. -/
  | imagePath (process : ProcessId)
  /-- How the window is shown. -/
  | placement (window : WindowHandle)
  /-- The rectangle of the window. -/
  | bounds (window : WindowHandle)
  /-- The monitor that the window overlaps most. -/
  | monitorOf (window : WindowHandle)
  /-- The geometry of a monitor. -/
  | monitorInfo (monitor : MonitorHandle)
  /-- Change how the window is shown; the answer says whether that is confirmed. -/
  | setState (window : WindowHandle) (command : WindowCommand)
  /-- The window in the foreground. -/
  | foreground
  deriving DecidableEq, Repr

namespace NativeCall

/-- The kind of a call. -/
@[reducible] def method : NativeCall → Method
  | .enumerate => .enumerate
  | .isWindow _ => .isWindow
  | .visible _ => .visible
  | .windowClass _ => .windowClass
  | .title _ => .title
  | .toolWindow _ => .toolWindow
  | .process _ => .process
  | .imagePath _ => .imagePath
  | .placement _ => .placement
  | .bounds _ => .bounds
  | .monitorOf _ => .monitorOf
  | .monitorInfo _ => .monitorInfo
  | .setState _ _ => .setState
  | .foreground => .foreground

/-- What a call answers. -/
abbrev Answer (call : NativeCall) : Type := call.method.Answer

/-- The number of the window, process or monitor that a call is about. -/
def subject : NativeCall → Option Int
  | .enumerate => none
  | .isWindow window => some window.raw
  | .visible window => some window.raw
  | .windowClass window => some window.raw
  | .title window => some window.raw
  | .toolWindow window => some window.raw
  | .process window => some window.raw
  | .imagePath owner => some owner.toNat
  | .placement window => some window.raw
  | .bounds window => some window.raw
  | .monitorOf window => some window.raw
  | .monitorInfo monitor => some monitor.raw
  | .setState window _ => some window.raw
  | .foreground => none

end NativeCall

/-- A type of states that answers native calls and has a clock. -/
class WindowSystem (σ : Type) where
  /-- Answer a call. -/
  call : (call : NativeCall) → Action σ call.Answer
  /-- Read the clock. -/
  readClock : Action σ Nat

/-- An action that may also fail for a stated reason. -/
abbrev Fallible (σ α : Type) := ExceptT Failure (Action σ) α

/-- A system beside which something else is kept is a system. -/
instance {τ σ : Type} [WindowSystem σ] : WindowSystem (τ × σ) where
  call call := (WindowSystem.call call).onSecond
  readClock := WindowSystem.readClock.onSecond

namespace Native

variable {σ : Type} [WindowSystem σ]

/-- The top-level windows in Z-order. -/
def enumerate : Fallible σ (List WindowHandle) := ExceptT.mk (WindowSystem.call .enumerate)

/-- There is such a window. -/
def isWindow (window : WindowHandle) : Action σ Bool := WindowSystem.call (.isWindow window)

/-- The window is visible. -/
def visible (window : WindowHandle) : Action σ Bool := WindowSystem.call (.visible window)

/-- The name of the window's class. -/
def windowClass (window : WindowHandle) : Fallible σ String :=
  ExceptT.mk (WindowSystem.call (.windowClass window))

/-- The title of the window. -/
def title (window : WindowHandle) : Fallible σ String :=
  ExceptT.mk (WindowSystem.call (.title window))

/-- The window is a tool window. -/
def toolWindow (window : WindowHandle) : Fallible σ Bool :=
  ExceptT.mk (WindowSystem.call (.toolWindow window))

/-- The process that owns the window. -/
def process (window : WindowHandle) : Fallible σ ProcessId :=
  ExceptT.mk (WindowSystem.call (.process window))

/-- The path of the program that a process runs. -/
def imagePath (process : ProcessId) : Fallible σ String :=
  ExceptT.mk (WindowSystem.call (.imagePath process))

/-- How the window is shown. -/
def placement (window : WindowHandle) : Fallible σ ShowState :=
  ExceptT.mk (WindowSystem.call (.placement window))

/-- The rectangle of the window. -/
def bounds (window : WindowHandle) : Fallible σ Rect :=
  ExceptT.mk (WindowSystem.call (.bounds window))

/-- The monitor that the window overlaps most. -/
def monitorOf (window : WindowHandle) : Fallible σ MonitorHandle :=
  ExceptT.mk (WindowSystem.call (.monitorOf window))

/-- The geometry of a monitor. -/
def monitorInfo (monitor : MonitorHandle) : Fallible σ MonitorInfo :=
  ExceptT.mk (WindowSystem.call (.monitorInfo monitor))

/-- Change how the window is shown. -/
def setState (window : WindowHandle) (command : WindowCommand) : Fallible σ Bool :=
  ExceptT.mk (WindowSystem.call (.setState window command))

/-- The window in the foreground. -/
def foreground : Action σ (Option WindowHandle) := WindowSystem.call .foreground

/-! ## System windows -/

/-- The window classes of the shell: task bars, the desktop, the start menu, the search. -/
def shellClasses : List String :=
  ["DV2ControlHost", "ImmersiveLauncher", "Progman", "SearchUI", "Shell_SecondaryTrayWnd",
    "Shell_TrayWnd", "WorkerW"]

/-- The window belongs to the shell, has a blank title or is a tool window. The class is asked for
first, then the title, then the tool flag, and no more than needed. -/
def isSystemWindow (window : WindowHandle) : Fallible σ Bool := do
  if shellClasses.contains (← windowClass window) then
    pure true
  else if (Text.trim (← title window).toList).isEmpty then
    pure true
  else
    toolWindow window

end Native

end SoloScreen
