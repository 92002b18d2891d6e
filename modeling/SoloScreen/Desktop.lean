import SoloScreen.Native
import SoloScreen.Table

/-!
# The emulated desktop

A desktop as data: monitors, processes and windows in Z-order. It answers every native call
(`Desktop.answer`), counts some of them, and can be made to misbehave: enumeration as a whole may
fail, single windows may fail, and single windows may refuse to be minimized or restored.

A minimized window remembers how it was shown, and restoring it goes back to that.
-/

namespace SoloScreen

/-- A window of the emulated desktop. -/
structure DesktopWindow where
  process : ProcessId
  className : String
  title : String
  bounds : Rect
  state : ShowState
  visible : Bool
  tool : Bool
  deriving DecidableEq, Repr

namespace DesktopWindow

/-- An ordinary window of a process, with the given title. -/
def titled (process : ProcessId) (title : String) : DesktopWindow where
  process := process
  className := "DryRunWindow"
  title := title
  bounds := ⟨100, 100, 900, 700⟩
  state := .normal
  visible := true
  tool := false

/-- The window maximized over an area. -/
def maximizedOver (window : DesktopWindow) (area : Rect) : DesktopWindow :=
  { window with bounds := area, state := .maximized }

end DesktopWindow

/-- An emulated desktop. -/
structure Desktop where
  /-- The monitors in the order they were added. -/
  monitors : List (MonitorHandle × MonitorInfo) := []
  /-- The program path of each process. -/
  processes : Table ProcessId String := []
  /-- The windows in Z-order, the uppermost first. -/
  windows : List (WindowHandle × DesktopWindow) := []
  /-- How minimized windows were shown before. -/
  remembered : Table WindowHandle ShowState := []
  foreground : Option WindowHandle := none
  /-- The number of the next window. -/
  nextHandle : Int := 0x1000
  /-- Enumeration fails. -/
  enumerationFails : Bool := false
  /-- Windows about which every question fails. -/
  failing : List WindowHandle := []
  /-- Windows that refuse to be minimized or restored. -/
  refusing : List WindowHandle := []
  /-- How many enumerations succeeded. -/
  enumerations : Nat := 0
  /-- How often a program path was asked for. -/
  imageQueries : Nat := 0
  /-- How often a change of state was requested. -/
  stateRequests : Nat := 0
  /-- The clock; each reading is later than the one before. -/
  time : Nat := 0
  deriving DecidableEq, Repr

namespace Desktop

/-! ## Building and using a desktop -/

/-- Add a monitor. -/
def addMonitor (info : MonitorInfo) (desktop : Desktop) : MonitorHandle × Desktop :=
  let handle : MonitorHandle := ⟨0x10 + desktop.monitors.length⟩
  (handle, { desktop with monitors := desktop.monitors ++ [(handle, info)] })

/-- Let a process run the program at a path. -/
def addProcess (process : ProcessId) (path : String) (desktop : Desktop) : Desktop :=
  { desktop with processes := desktop.processes.insert process path }

/-- Open a window above all others. -/
def openWindow (window : DesktopWindow) (desktop : Desktop) : WindowHandle × Desktop :=
  let handle : WindowHandle := ⟨desktop.nextHandle⟩
  (handle, { desktop with
    nextHandle := desktop.nextHandle + 0x10
    windows := (handle, window) :: desktop.windows })

/-- Close a window. -/
def closeWindow (window : WindowHandle) (desktop : Desktop) : Desktop :=
  { desktop with
    windows := desktop.windows.filter (·.1 ≠ window)
    remembered := desktop.remembered.erase window
    foreground := if desktop.foreground = some window then none else desktop.foreground }

/-- Put a window, or none, into the foreground. -/
def setForeground (window : Option WindowHandle) (desktop : Desktop) : Desktop :=
  { desktop with foreground := window }

/-- The windows with the state of one of them changed. -/
def withState (window : WindowHandle) (state : ShowState) :
    List (WindowHandle × DesktopWindow) → List (WindowHandle × DesktopWindow)
  | [] => []
  | (handle, w) :: rest =>
    if handle = window then (handle, { w with state }) :: rest
    else (handle, w) :: withState window state rest

/-- The user changes how a window is shown; nothing is remembered. -/
def setShowState (window : WindowHandle) (state : ShowState) (desktop : Desktop) : Desktop :=
  { desktop with windows := withState window state desktop.windows }

/-- Let enumeration fail, or work again. -/
def failEnumeration (fails : Bool) (desktop : Desktop) : Desktop :=
  { desktop with enumerationFails := fails }

/-- Let every question about a window fail. -/
def failWindow (window : WindowHandle) (desktop : Desktop) : Desktop :=
  { desktop with failing := window :: desktop.failing }

/-- Let a window refuse to be minimized or restored. -/
def refuse (window : WindowHandle) (desktop : Desktop) : Desktop :=
  { desktop with refusing := window :: desktop.refusing }

/-! ## Looking up -/

/-- An open window, whether it fails or not. -/
def find? (window : WindowHandle) (desktop : Desktop) : Option DesktopWindow :=
  Table.find? window desktop.windows

/-- A window that can be asked about. -/
def window (window : WindowHandle) (desktop : Desktop) : Except Failure DesktopWindow :=
  if desktop.failing.contains window then
    .error (.platform ("эмулированный сбой окна " ++ window.display))
  else match desktop.find? window with
    | some w => .ok w
    | none => .error (.windowNotFound window)

/-- How a window is shown, if it can be asked. -/
def showState? (window : WindowHandle) (desktop : Desktop) : Option ShowState :=
  match desktop.window window with
  | .ok w => some w.state
  | .error _ => none

/-- The geometry of a monitor. -/
def monitor? (monitor : MonitorHandle) (desktop : Desktop) : Option MonitorInfo :=
  Table.find? monitor desktop.monitors

/-- The monitors with the area each of them shares with a rectangle. -/
def overlaps (bounds : Rect) :
    List (MonitorHandle × MonitorInfo) → Except Overflow (List (MonitorHandle × Int))
  | [] => .ok []
  | (handle, info) :: rest => do
    let area ← info.bounds.intersectionArea bounds
    let others ← overlaps bounds rest
    pure ((handle, area) :: others)

/-- The key with the largest value, the last one of several. -/
def lastLargest : List (MonitorHandle × Int) → Option MonitorHandle
  | [] => none
  | (handle, area) :: rest =>
    if rest.any fun other => area ≤ other.2 then lastLargest rest else some handle

/-! ## Changing how a window is shown -/

/-- Request a change of state. The request is counted before anything else; a window that refuses
stays as it is, and so does one that cannot be asked about. -/
def requestState (window : WindowHandle) (command : WindowCommand) (desktop : Desktop) :
    Except Failure Bool × Desktop :=
  let counted := { desktop with stateRequests := desktop.stateRequests + 1 }
  match desktop.window window with
  | .error failure => (.error failure, counted)
  | .ok w =>
    if desktop.refusing.contains window then (.ok false, counted)
    else match command with
      | .minimize =>
        (.ok true, { counted with
          windows := withState window .minimized desktop.windows
          remembered := if w.state = .minimized then desktop.remembered
            else desktop.remembered.insert window w.state })
      | .restore =>
        (.ok true, { counted with
          windows := withState window ((desktop.remembered.find? window).getD .normal)
            desktop.windows
          remembered := desktop.remembered.erase window })

/-! ## Answering native calls -/

/-- The monitor of a window: the one it overlaps most, the last one of several. -/
def monitorOf (window : WindowHandle) (desktop : Desktop) :
    Except Overflow (Except Failure MonitorHandle) :=
  match desktop.window window with
  | .error failure => .ok (.error failure)
  | .ok w => do
    let areas ← overlaps w.bounds desktop.monitors
    pure (match lastLargest areas with
      | some monitor => .ok monitor
      | none => .error (.platform "мониторы не найдены"))

/-- The answer to a native call, and the desktop after it. -/
def answer (desktop : Desktop) : (call : NativeCall) → Except Overflow call.Answer × Desktop
  | .enumerate =>
    if desktop.enumerationFails then
      (.ok (.error (.platform "эмулированный сбой EnumWindows")), desktop)
    else
      (.ok (.ok (desktop.windows.map Prod.fst)),
        { desktop with enumerations := desktop.enumerations + 1 })
  | .isWindow window => (.ok (desktop.find? window).isSome, desktop)
  | .visible window =>
    (.ok (match desktop.window window with
      | .ok w => w.visible
      | .error _ => false), desktop)
  | .windowClass window => (.ok ((desktop.window window).map (·.className)), desktop)
  | .title window => (.ok ((desktop.window window).map (·.title)), desktop)
  | .toolWindow window => (.ok ((desktop.window window).map (·.tool)), desktop)
  | .process window => (.ok ((desktop.window window).map (·.process)), desktop)
  | .imagePath process =>
    (.ok (match desktop.processes.find? process with
      | some path => .ok path
      | none => .error (.platform ("процесс " ++ toString process ++ " недоступен"))),
      { desktop with imageQueries := desktop.imageQueries + 1 })
  | .placement window => (.ok ((desktop.window window).map (·.state)), desktop)
  | .bounds window => (.ok ((desktop.window window).map (·.bounds)), desktop)
  | .monitorOf window => (desktop.monitorOf window, desktop)
  | .monitorInfo monitor =>
    (.ok (match desktop.monitor? monitor with
      | some info => .ok info
      | none => .error (.platform ("монитор " ++ monitor.display ++ " не найден"))), desktop)
  | .setState window command =>
    let (confirmed, after) := desktop.requestState window command
    (.ok confirmed, after)
  | .foreground => (.ok desktop.foreground, desktop)

instance : WindowSystem Desktop where
  call call := ⟨fun desktop => desktop.answer call⟩
  readClock := .step fun desktop => (desktop.time, { desktop with time := desktop.time + 1 })

/-! ## The demonstration desktop -/

/-- A desktop with one monitor, the task bar and two ordinary windows. -/
def demo : Desktop :=
  let (_, desktop) := addMonitor ⟨⟨0, 0, 1920, 1080⟩, ⟨0, 0, 1920, 1040⟩⟩ {}
  let desktop := desktop
    |>.addProcess 100 "C:\\Windows\\explorer.exe"
    |>.addProcess 200 "C:\\Windows\\System32\\notepad.exe"
    |>.addProcess 300 "C:\\Program Files\\Mozilla Firefox\\firefox.exe"
  let (_, desktop) := desktop.openWindow { DesktopWindow.titled 100 "" with
    className := "Shell_TrayWnd", bounds := ⟨0, 1040, 1920, 1080⟩ }
  let (_, desktop) := desktop.openWindow (DesktopWindow.titled 200 "notes.txt - Notepad")
  let (_, desktop) := desktop.openWindow { DesktopWindow.titled 300 "Mozilla Firefox" with
    bounds := ⟨200, 80, 1400, 880⟩ }
  desktop

end Desktop

end SoloScreen
