import SoloScreen.Handle
import SoloScreen.Rect

/-!
# Windows and monitors

What is known of a monitor and of a window, and when a window fills the screen.
-/

namespace SoloScreen

/-- How a window is shown. -/
inductive ShowState where
  | normal
  | minimized
  | maximized
  deriving DecidableEq, Repr

/-- A request to change how a window is shown. -/
inductive WindowCommand where
  | minimize
  | restore
  deriving DecidableEq, Repr

/-- The geometry of a monitor. -/
structure MonitorInfo where
  /-- The whole monitor. -/
  bounds : Rect
  /-- The monitor without the task bar and other reserved space. -/
  workArea : Rect
  deriving DecidableEq, Repr

/-- A top-level window as it was found at one moment. -/
structure WindowRecord where
  handle : WindowHandle
  process : ProcessId
  /-- The name of the process, in lower case and without extension. -/
  processName : String
  title : String
  state : ShowState
  /-- The monitor the window is assigned to. -/
  monitor : MonitorHandle
  bounds : Rect
  visible : Bool
  /-- The window belongs to the shell, has no title or is a tool window. -/
  system : Bool
  /-- The clock when the window was found. -/
  capturedAt : Nat
  deriving DecidableEq, Repr

namespace WindowRecord

/-- An ordinary visible window. -/
def isValid (record : WindowRecord) : Bool :=
  !record.handle.isNull && record.visible && !record.system

/-- The window is maximized. -/
def isMaximized (record : WindowRecord) : Bool := record.state == .maximized

/-- The window is minimized. -/
def isMinimized (record : WindowRecord) : Bool := record.state == .minimized

/-- An ordinary maximized window that covers the work area of the monitor. -/
def isFullScreen (record : WindowRecord) (monitor : MonitorInfo) : Bool :=
  record.isValid && record.isMaximized && record.bounds.covers monitor.workArea

/-- A record as text. -/
def display (record : WindowRecord) : String :=
  record.handle.display ++ " \"" ++ record.title ++ "\" (" ++ record.processName ++ ", pid " ++
    toString record.process ++ ")"

end WindowRecord

end SoloScreen
