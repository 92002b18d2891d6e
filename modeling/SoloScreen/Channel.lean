/-!
# Broadcast channels

A channel keeps the last few messages sent. A receiver is a position in the history of all messages:
it receives each message sent after it subscribed, unless it falls behind by more than the channel
keeps. Then it is told how many messages it lost and goes on with the oldest one kept. When the
sender is gone and everything kept was received, the channel is closed for the receiver.
-/

namespace SoloScreen

/-- A channel, as the history of the messages sent on it. -/
structure Channel (α : Type) where
  /-- How many messages are kept. -/
  capacity : Nat
  /-- All messages sent, the first one first. -/
  sent : List α := []
  /-- The sender is gone. -/
  closed : Bool := false
  deriving DecidableEq, Repr

/-- What a receiver gets. -/
inductive Received (α : Type) where
  /-- The next message. -/
  | message (value : α)
  /-- So many messages were lost. -/
  | lagged (lost : Nat)
  /-- There is nothing to receive now. -/
  | empty
  /-- There will be nothing more. -/
  | closed
  deriving DecidableEq, Repr

namespace Channel

variable {α : Type}

/-- Send a message. -/
def send (message : α) (channel : Channel α) : Channel α :=
  { channel with sent := channel.sent ++ [message] }

/-- The sender is gone. -/
def close (channel : Channel α) : Channel α := { channel with closed := true }

/-- The position of a receiver that subscribes now. -/
def subscribe (channel : Channel α) : Nat := channel.sent.length

/-- The position of the oldest message kept. -/
def oldest (channel : Channel α) : Nat := channel.sent.length - channel.capacity

/-- Receive at a position: what is received, and the position after it. -/
def receive (channel : Channel α) (position : Nat) : Received α × Nat :=
  if position < channel.oldest then (.lagged (channel.oldest - position), channel.oldest)
  else match channel.sent[position]? with
    | some message => (.message message, position + 1)
    | none => (if channel.closed then .closed else .empty, position)

/-- Receive until there is nothing more, at most `fuel` times. -/
def drainUpTo (channel : Channel α) : (fuel position : Nat) → List (Received α) × Nat
  | 0, position => ([], position)
  | fuel + 1, position =>
    match channel.receive position with
    | (.empty, after) => ([], after)
    | (.closed, after) => ([.closed], after)
    | (received, after) =>
      let (others, last) := channel.drainUpTo fuel after
      (received :: others, last)

/-- Receive until there is nothing more. There are at most as many messages as were sent, one loss
and the end. -/
def drain (channel : Channel α) (position : Nat) : List (Received α) × Nat :=
  channel.drainUpTo (channel.sent.length + 2) position

end Channel

end SoloScreen
