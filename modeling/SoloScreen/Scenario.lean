import SoloScreen.Clock
import SoloScreen.Desktop

/-!
# The demonstration scenario

A game that is played on the emulated desktop: every ten seconds its window is opened over the work
area of the first monitor, or closed again.
-/

namespace SoloScreen

/-- A scenario at work. -/
structure Scenario where
  /-- The window of the game, while it is open. -/
  game : Option WindowHandle := none
  /-- When the game is opened or closed next. -/
  timer : Timer
  deriving DecidableEq, Repr

namespace Scenario

/-- The time between two changes, in milliseconds. -/
def period : Nat := 10000

/-- The process of the game. -/
def process : ProcessId := 4242

/-- The monitor the game is played on. -/
def monitor : MonitorHandle := ⟨0x10⟩

/-- Install the game. -/
def install (desktop : Desktop) : Desktop := desktop.addProcess process "C:\\Games\\game.exe"

/-- Open the game and bring it into the foreground, or close it. Without a monitor there is no
game. -/
def toggle (game : Option WindowHandle) (desktop : Desktop) : Option WindowHandle × Desktop :=
  match game with
  | some window => (none, desktop.closeWindow window)
  | none =>
    match desktop.monitor? monitor with
    | none => (none, desktop)
    | some info =>
      let window := (DesktopWindow.titled process "Game - dry_run").maximizedOver info.workArea
      let (handle, opened) := desktop.openWindow window
      (some handle, opened.setForeground (some handle))

end Scenario

end SoloScreen
