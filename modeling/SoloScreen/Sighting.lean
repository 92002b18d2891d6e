import SoloScreen.Handle

/-!
# Sightings

What the detector reports: that full screen began or ended, and that the focus went to another
window of a watched process.
-/

namespace SoloScreen

/-- A full-screen window and its owner, or the absence of one. -/
structure Sighting where
  fullScreen : Bool
  window : Option WindowHandle
  monitor : Option MonitorHandle
  process : String
  title : String
  deriving DecidableEq, Repr

namespace Sighting

/-- A window of a process fills a monitor. -/
def entered (window : WindowHandle) (monitor : MonitorHandle) (process title : String) : Sighting :=
  ⟨true, some window, some monitor, process, title⟩

/-- No window fills a monitor any more. -/
def exited : Sighting := ⟨false, none, none, "", ""⟩

end Sighting

/-- An event of the detector. -/
inductive DetectorEvent where
  /-- Full screen began or ended. -/
  | fullScreenChanged (sighting : Sighting)
  /-- The focus went to a window of a watched process while full screen lasts. -/
  | targetFocused (sighting : Sighting)
  deriving DecidableEq, Repr

namespace DetectorEvent

/-- What the event is about. -/
def sighting : DetectorEvent → Sighting
  | .fullScreenChanged sighting => sighting
  | .targetFocused sighting => sighting

/-- An event as text. -/
def display : DetectorEvent → String
  | .fullScreenChanged sighting =>
    if sighting.fullScreen then
      "FullScreenStateChanged(true): " ++ sighting.process ++ " \"" ++ sighting.title ++ "\""
    else "FullScreenStateChanged(false)"
  | .targetFocused sighting =>
    "TargetProcessFocused: " ++ sighting.process ++ " \"" ++ sighting.title ++ "\""

end DetectorEvent

end SoloScreen
