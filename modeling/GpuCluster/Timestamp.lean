/-!
# Moments in time

A moment is a number of seconds since the start of 1970 in universal time and a number of
nanoseconds. During a leap second the nanoseconds run on past one thousand million.
-/

namespace GpuCluster

structure Timestamp where
  seconds : Int
  nanos : Nat
  deriving DecidableEq, Repr, Inhabited

namespace Timestamp

/-- The start of 1970. -/
def epoch : Timestamp := ⟨0, 0⟩

def ofMillis (ms : Int) : Timestamp :=
  ⟨ms / 1000, (ms % 1000).toNat * 1000000⟩

/-- Whole milliseconds since the start of 1970. -/
def toMillis (t : Timestamp) : Int :=
  t.seconds * 1000 + (t.nanos / 1000000 : Nat)

end Timestamp

end GpuCluster
