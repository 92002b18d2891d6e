/-!
# Timers

Time is a number of milliseconds that only its owner moves. A timer is data: when it is due, and
when it was armed compared with other timers. Of timers that are due together the one armed first
comes first.
-/

namespace SoloScreen

/-- A timer that has been armed. -/
structure Timer where
  /-- The time it is due. -/
  due : Nat
  /-- How many timers had been armed before it. -/
  order : Nat
  deriving DecidableEq, Repr

/-- The time, and how many timers have been armed. -/
structure Clock where
  now : Nat := 0
  armed : Nat := 0
  deriving DecidableEq, Repr

/-- Arm a timer that is due after a delay. -/
def Clock.arm (delay : Nat) (clock : Clock) : Timer × Clock :=
  (⟨clock.now + delay, clock.armed⟩, { clock with armed := clock.armed + 1 })

/-- A millisecond passes. -/
def Clock.tick (clock : Clock) : Clock := { clock with now := clock.now + 1 }

/-- The timer is due. -/
def Timer.isDue (timer : Timer) (clock : Clock) : Bool := timer.due ≤ clock.now

end SoloScreen
