import SoloScreen.Channel
import SoloScreen.Notification

/-!
# The notification pump

A pump carries notifications from a channel to a sink until the channel is closed. A sink may refuse
a notification; that, like a loss in the channel, does not stop the pump.
-/

namespace SoloScreen

/-- Which notifications a sink takes and keeps. The answer may depend on how many notifications it
was offered before, so it may refuse one for a while and take it later. -/
abbrev Sink := (offers : Nat) → Notification → Bool

/-- A sink that keeps everything but notifications with certain texts, which it refuses. -/
def Sink.refusing (texts : List String) : Sink := fun _ notification =>
  !texts.contains notification.display

/-- A sink that takes everything and keeps nothing. -/
def Sink.log : Sink := fun _ _ => false

/-- A pump at work. -/
structure Pump where
  sink : Sink
  /-- The position of its receiver. -/
  position : Nat
  /-- How many notifications the sink was offered. -/
  offers : Nat := 0
  /-- What the sink has kept, the first one first. -/
  delivered : List Notification := []
  /-- The channel was closed. -/
  finished : Bool := false

namespace Pump

/-- Handle what was received. -/
def accept (pump : Pump) : Received Notification → Pump
  | .message notification =>
    { pump with
        offers := pump.offers + 1
        delivered :=
          if pump.sink pump.offers notification then pump.delivered ++ [notification]
          else pump.delivered }
  | .closed => { pump with finished := true }
  | .lagged _ => pump
  | .empty => pump

/-- Receive once, unless the channel was closed. -/
def step (channel : Channel Notification) (pump : Pump) : Pump :=
  if pump.finished then pump
  else
    let (received, position) := channel.receive pump.position
    { pump.accept received with position }

/-- Receive until there is nothing more. -/
def run (channel : Channel Notification) (pump : Pump) : Pump :=
  if pump.finished then pump
  else
    let (received, position) := channel.drain pump.position
    { received.foldl accept pump with position }

end Pump

end SoloScreen
