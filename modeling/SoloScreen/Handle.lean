/-!
# Handles

Windows, monitors and processes are named by numbers that the window system gives out. A handle is
valid only as long as the system says so: after a window is gone its number may name another one.
-/

namespace SoloScreen

/-- A number in upper-case hexadecimal digits; a negative one as its 64-bit two's complement. -/
def hexadecimal (n : Int) : String :=
  String.ofList ((Nat.toDigits 16 (BitVec.ofInt 64 n).toNat).map Char.toUpper)

/-- The name of a window. -/
structure WindowHandle where
  /-- The number itself. -/
  raw : Int
  deriving DecidableEq, Repr

/-- The name of a monitor. -/
structure MonitorHandle where
  /-- The number itself. -/
  raw : Int
  deriving DecidableEq, Repr

/-- The name of a process. -/
abbrev ProcessId := UInt32

/-- Zero names no window. -/
def WindowHandle.isNull (window : WindowHandle) : Bool := window.raw == 0

/-- A window handle as text. -/
def WindowHandle.display (window : WindowHandle) : String := "0x" ++ hexadecimal window.raw

/-- A monitor handle as text. -/
def MonitorHandle.display (monitor : MonitorHandle) : String :=
  "monitor#" ++ hexadecimal monitor.raw

end SoloScreen
