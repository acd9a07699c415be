import GpuCluster.Config
import GpuCluster.Placement.Request

/-!
# How different the devices of a pool are

Memory is compared relative to the larger device of a pair, utilization in percentage points. Both
differences are largest for the extreme devices, so that one pass over the pool finds them.
-/

namespace GpuCluster.Placement

open Scalar

section Formula

variable {α : Type} [Scalar α]

/-- The largest relative difference between two memory sizes, as a percentage. -/
def memorySpread (totals : List Nat) : α :=
  let high := largest totals
  let low := totals.foldl min high
  if high = 0 then ofNat 0 else ofNat (high - low) / ofNat high * ofNat 100

/-- The largest difference between two utilizations; nothing without devices. -/
def utilizationSpread? (utilizations : List α) : Option α :=
  match utilizations with
  | [] => none
  | u :: rest => some (rest.foldl larger u - rest.foldl smaller u)

/-- Some two devices differ by more than the tolerances in memory or in utilization. -/
def exceedsTolerance (devices : List (Nat × α)) (memoryTolerance utilizationTolerance : α) : Bool :=
  less memoryTolerance (memorySpread (devices.map (·.1))) ||
    (utilizationSpread? (devices.map (·.2))).any (less utilizationTolerance)

end Formula

/-- A pool of at least two devices whose differences exceed the tolerances. -/
def isHeterogeneous (pool : List PoolDevice) (memoryTolerance utilizationTolerance : Float) :
    Bool :=
  2 ≤ pool.length &&
    exceedsTolerance (pool.map fun d => (d.total, d.utilization)) memoryTolerance
      utilizationTolerance

end GpuCluster.Placement
