/-!
# Broadcast channels

A channel sends every event to all receivers that subscribed before. It keeps a limited number of
the latest events; a receiver that waits too long loses the oldest ones and is told how many.
-/

namespace GpuCluster

structure Channel (ε : Type) where
  /-- Events that are kept for receivers. -/
  capacity : Nat
  /-- All events, from the oldest to the newest. -/
  sent : List ε

/-- The number of events that a receiver has seen or was not meant to see. -/
structure Receiver where
  seen : Nat
  deriving DecidableEq, Repr

/-- What a receiver finds: how many events it lost, and the ones that are left. -/
structure Received (ε : Type) where
  lost : Nat
  events : List ε

namespace Channel

variable {ε : Type}

/-- The least power of two that is not below `n`. -/
def powerAbove (n : Nat) : Nat :=
  if n ≤ 1 then 1 else Nat.pow 2 ((n - 1).log2 + 1)

/-- An empty channel for `buffer` events, rounded up to a power of two. -/
def ofBuffer (buffer : Nat) : Channel ε :=
  ⟨powerAbove buffer, []⟩

def sendAll (c : Channel ε) (es : List ε) : Channel ε :=
  { c with sent := c.sent ++ es }

/-- A receiver of the events to come. -/
def subscribe (c : Channel ε) : Receiver := ⟨c.sent.length⟩

/-- Everything that a receiver has not seen, as far as it is still kept. -/
def receive (c : Channel ε) (r : Receiver) : Received ε × Receiver :=
  let first := max r.seen (c.sent.length - c.capacity)
  (⟨first - r.seen, c.sent.drop first⟩, ⟨c.sent.length⟩)

end Channel

end GpuCluster
