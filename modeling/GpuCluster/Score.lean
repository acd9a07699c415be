import GpuCluster.Config
import GpuCluster.Number.Extended
import GpuCluster.Sample

/-!
# Suitability scores

A score weighs the free part of the memory and the idle part of the compute capacity, and is then
reduced by the temperature and by reduced precision. Devices are ranked by descending score, and
those with equal scores by id. A score that is undefined because a number that went into it is so
ranks above the others, and one that arose undefined below them.
-/

namespace GpuCluster

open Number (Extended)
open Scalar

/-- A device to be scored on a sample. -/
structure Candidate (α : Type) where
  device : Device
  sample : Sample α
  /-- The device computes at reduced precision. -/
  reduced : Bool

structure Score (α : Type) where
  deviceId : DeviceId
  /-- From zero to one. -/
  value : α
  /-- Bytes that the device has free. -/
  free : Nat
  /-- Free part of the memory. -/
  memory : α
  /-- Idle part of the compute capacity. -/
  compute : α
  penalty : α
  modeFactor : α

/-- The candidate with its numbers taken into another type. -/
def Candidate.map {α β : Type} (f : α → β) (c : Candidate α) : Candidate β :=
  ⟨c.device, c.sample.map f, c.reduced⟩

/-- The memory of a device: what its description says, or else what its sample reports. -/
def Device.capacity {α : Type} (d : Device) (s : Sample α) : Nat :=
  if 0 < d.memory then d.memory else s.total.toNat

theorem Device.capacity_of_fault?_eq_none {α : Type} {d : Device} (h : d.fault? = none) (s : Sample α) :
    d.capacity s = d.memory := by
  have hmemory : d.memory ≠ 0 := by
    intro hzero
    rw [fault?, if_pos hzero] at h
    split at h <;> cases h
  exact if_pos (Nat.pos_of_ne_zero hmemory)

namespace Score

section Formula

variable {α : Type} [Scalar α]

/-- One up to the high-water mark, zero from the critical temperature, linear in between. -/
def thermalPenalty (p : ScoringPolicy α) (temperature : α) : α :=
  if atMost temperature p.highWater then ofNat 1
  else if atMost p.critical temperature then ofNat 0
  else (p.critical - temperature) / (p.critical - p.highWater)

def memoryPart (free capacity : Nat) : α :=
  if capacity = 0 then ofNat 0 else ofNat free / ofNat capacity

def computePart (utilization : α) : α :=
  clamp (ofNat 1 - utilization / ofNat 100) (ofNat 0) (ofNat 1)

/-- The score of a candidate. -/
def of (p : ScoringPolicy α) (c : Candidate α) : Score α :=
  let capacity := c.device.capacity c.sample
  let free := capacity - c.sample.used.toNat
  let memory := memoryPart free capacity
  let compute := computePart c.sample.utilization
  let penalty := thermalPenalty p c.sample.temperature
  let modeFactor := if c.reduced then p.reducedFactor else ofNat 1
  let weighted := p.memoryWeight * memory + p.utilizationWeight * compute
  { deviceId := c.device.id
    value := clamp (weighted * penalty * modeFactor) (ofNat 0) (ofNat 1)
    free, memory, compute, penalty, modeFactor }

end Formula

/-- The score of a candidate whose numbers are doubles. -/
def ofDoubles (p : ScoringPolicy Float) (c : Candidate Float) : Score Extended :=
  of (p.map .double) (c.map .double)

/-- Descending value, then ascending id. -/
def compareRank (s t : Score Extended) : Ordering :=
  (compare t.value.rank s.value.rank).then (compare s.deviceId t.deviceId)

/-- `s` may stand before `t`. -/
def precedes (s t : Score Extended) : Bool :=
  (s.compareRank t).isLE

/-- All candidates, best first; those that compare equal keep their order. -/
def rankAll (p : ScoringPolicy Float) (candidates : List (Candidate Float)) :
    List (Score Extended) :=
  (candidates.map (ofDoubles p)).mergeSort precedes

/-- The better of two scores, the earlier one when they compare equal. -/
def better (best : Option (Score Extended)) (s : Score Extended) : Option (Score Extended) :=
  match best with
  | none => some s
  | some b => if b.precedes s then best else some s

/-- The best candidate with at least `minFree` bytes free. -/
def selectBest (p : ScoringPolicy Float) (candidates : List (Candidate Float)) (minFree : Nat) :
    Option (Score Extended) :=
  ((candidates.map (ofDoubles p)).filter (minFree ≤ ·.free)).foldl better none

end Score

end GpuCluster
