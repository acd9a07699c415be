import GpuCluster.Device
import GpuCluster.Number.Total
import GpuCluster.Sample
import GpuCluster.Score

/-!
# What is placed where

A request lists the sizes of the shards of a model and may restrict the devices that receive them. A
pool lists the devices with the memory that each has free. A device is eligible for a request when
it meets all restrictions.
-/

namespace GpuCluster.Placement

structure Request where
  /-- Bytes of each shard, in the order of the layers. -/
  sizes : List Nat
  /-- The only devices that may be used; all of them when the list is empty. -/
  candidates : List DeviceId
  precision : Option Precision
  group : Option String

/-- A device of the pool. -/
structure PoolDevice where
  id : DeviceId
  total : Nat
  free : Nat
  utilization : Float
  precisions : List Precision
  group : Option String
  /-- Devices with a higher score are tried first. -/
  score : Number.Extended

/-- The pool entry of a device, from its latest sample. -/
def PoolDevice.of (d : Device) (s : Sample Float) (score : Number.Extended) :
    PoolDevice where
  id := d.id
  total := d.capacity s
  free := d.capacity s - s.used.toNat
  utilization := s.utilization
  precisions := d.precisions
  group := d.group
  score := score

namespace Request

def isCandidate (r : Request) (d : PoolDevice) : Bool :=
  r.candidates.isEmpty || r.candidates.contains d.id

def inGroup (r : Request) (d : PoolDevice) : Bool :=
  r.group.isNone || d.group = r.group

def hasPrecision (r : Request) (d : PoolDevice) : Bool :=
  match r.precision with
  | none => true
  | some p => p ∈ d.precisions

def isEligible (r : Request) (d : PoolDevice) : Bool :=
  r.isCandidate d && r.inGroup d && r.hasPrecision d

end Request

/-- The largest byte count that a report can state. -/
def maxBytes : Nat := Nat.pow 2 64 - 1

/-- A sum of byte counts as it is reported: no more than `maxBytes`. -/
def reportedSum (bytes : List Nat) : Nat :=
  min (Number.total bytes) maxBytes

/-- The reported sum is the one kept while adding, when each step stops at `maxBytes`. -/
theorem foldl_eq_reportedSum (bytes : List Nat) :
    bytes.foldl (fun total b => min (total + b) maxBytes) 0 = reportedSum bytes := by
  have key : ∀ (l : List Nat) (total : Nat), total ≤ maxBytes →
      l.foldl (fun total b => min (total + b) maxBytes) total = min (total + Number.total l) maxBytes := by
    intro l
    induction l with
    | nil => intro total h; simp [Nat.min_eq_left h]
    | cons b l ih =>
      intro total h
      rw [List.foldl_cons, ih _ (Nat.min_le_right _ _), Number.total_cons]
      omega
  simpa [reportedSum] using key bytes 0 (Nat.zero_le _)

def Request.totalBytes (r : Request) : Nat := reportedSum r.sizes

/-- The free memory of several devices. -/
def totalFree (pool : List PoolDevice) : Nat := reportedSum (pool.map (·.free))

/-- The larger of the numbers, zero if there are none. -/
def largest (bytes : List Nat) : Nat := bytes.foldl max 0

end GpuCluster.Placement
