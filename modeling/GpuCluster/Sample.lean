import GpuCluster.Device
import GpuCluster.Scalar
import GpuCluster.Timestamp

/-!
# Telemetry samples

Byte counts are signed, so that a malformed sample can be refused instead of being taken for an
enormous one.
-/

namespace GpuCluster

/-- One reading of a device, with scalars of type `α`. -/
structure Sample (α : Type) where
  deviceId : DeviceId
  takenAt : Timestamp
  /-- Bytes in use. -/
  used : Int
  /-- Bytes in all. -/
  total : Int
  /-- Percentage from 0 to 100. -/
  utilization : α
  /-- Watts. -/
  power : α
  /-- Degrees Celsius. -/
  temperature : α
  /-- Megahertz. -/
  clock : Nat

/-- What is wrong with a sample. -/
inductive SampleFault (α : Type) where
  | utilization (id : DeviceId) (value : α)
  | negativeUsed (id : DeviceId) (value : Int)
  | noTotal (id : DeviceId) (value : Int)
  | overfull (id : DeviceId) (used total : Int)
  | temperature (id : DeviceId) (value : α)
  | power (id : DeviceId) (value : α)

namespace Sample

variable {α : Type}

/-- The sample with its numbers taken into another type. -/
def map {β : Type} (f : α → β) (s : Sample α) : Sample β :=
  { s with
    utilization := f s.utilization
    power := f s.power
    temperature := f s.temperature }

/-- Bytes that are not in use. -/
def free (s : Sample α) : Nat :=
  (s.total - s.used).toNat

variable [Scalar α]

open Scalar

/-- The part of the memory that is in use, zero when there is no memory. -/
def usedFraction (s : Sample α) : α :=
  if s.total ≤ 0 then ofNat 0 else ofInt s.used / ofInt s.total

/-- Degrees Celsius. -/
def absoluteZero : α := -ratio 27315 100

/-- The first fault of a sample, in the order utilization, memory, temperature, power. -/
def fault? (s : Sample α) : Option (SampleFault α) :=
  if !isFinite s.utilization || !isBetween s.utilization (ofNat 0) (ofNat 100) then
    some (.utilization s.deviceId s.utilization)
  else if s.used < 0 then some (.negativeUsed s.deviceId s.used)
  else if s.total ≤ 0 then some (.noTotal s.deviceId s.total)
  else if s.total < s.used then some (.overfull s.deviceId s.used s.total)
  else if !isFinite s.temperature || less s.temperature absoluteZero then
    some (.temperature s.deviceId s.temperature)
  else if !isFinite s.power || less s.power (ofNat 0) then some (.power s.deviceId s.power)
  else none

end Sample

end GpuCluster
