import GpuCluster.Aggregate
import GpuCluster.Broadcast
import GpuCluster.Summary
import GpuCluster.Table
import GpuCluster.Telemetry.Change

/-!
# The collector

The collector keeps the current sample and a window of past ones for every registered device, and
announces notable changes. Samples of other devices and faulty samples are refused.
-/

namespace GpuCluster.Telemetry

/-- What is kept for one device. -/
structure Slot where
  current : Option (Sample Float)
  history : Window (Sample Float)
  announced : Option (Sample Float)

/-- Why a sample is refused. -/
inductive Refusal where
  | unknownDevice (id : DeviceId)
  | faulty (fault : SampleFault Float)

namespace Slot

def ofCapacity (capacity : Nat) : Slot := ⟨none, .ofCapacity capacity, none⟩

/-- Keeps a sample; gives the change to announce, if it is notable. -/
def record (slot : Slot) (t : ChangeThresholds) (s : Sample Float) : Slot × Option Change :=
  let change := Change.since slot.announced s
  let kept := { slot with current := some s, history := slot.history.push s }
  if change.isNotable t then ({ kept with announced := some s }, some change) else (kept, none)

theorem current_record (slot : Slot) (t : ChangeThresholds) (s : Sample Float) :
    (slot.record t s).1.current = some s := by
  rw [record]
  split <;> rfl

theorem history_record (slot : Slot) (t : ChangeThresholds) (s : Sample Float) :
    (slot.record t s).1.history = slot.history.push s := by
  rw [record]
  split <;> rfl

end Slot

structure Collector where
  capacity : Nat
  thresholds : ChangeThresholds
  slots : Table DeviceId Slot
  changes : Channel Change

namespace Collector

def start (p : TelemetryPolicy) : Collector where
  capacity := max p.historyCapacity 1
  thresholds := p.thresholds
  slots := .empty
  changes := .ofBuffer p.eventBuffer

def isRegistered (c : Collector) (id : DeviceId) : Bool := c.slots.contains id

/-- Starts to accept samples of a device, unless it is registered already. -/
def register (c : Collector) (id : DeviceId) : Collector :=
  if c.isRegistered id then c
  else { c with slots := c.slots.insert id (.ofCapacity c.capacity) }

def remove (c : Collector) (id : DeviceId) : Collector :=
  { c with slots := c.slots.erase id }

def clear (c : Collector) : Collector :=
  { c with slots := .empty }

/-- Stores a sample; gives the change that is announced, if any. -/
def record (c : Collector) (s : Sample Float) : Except Refusal (Collector × Option Change) :=
  match c.slots.get? s.deviceId with
  | none => .error (.unknownDevice s.deviceId)
  | some slot =>
    match s.fault? with
    | some fault => .error (.faulty fault)
    | none =>
      let (slot, change) := slot.record c.thresholds s
      .ok ({ c with
        slots := c.slots.insert s.deviceId slot
        changes := c.changes.sendAll change.toList }, change)

def current? (c : Collector) (id : DeviceId) : Option (Sample Float) :=
  (c.slots.get? id).bind (·.current)

/-- The current samples of all devices that have one, by id. -/
def currentAll (c : Collector) : List (Sample Float) :=
  c.slots.values.filterMap (·.current)

/-- The samples of a device that are kept, from the oldest to the newest. -/
def history (c : Collector) (id : DeviceId) : List (Sample Float) :=
  match c.slots.get? id with
  | none => []
  | some slot => slot.history.toList

def summary? (c : Collector) (id : DeviceId) : Option Summary :=
  (c.slots.get? id).bind fun slot => Summary.ofWindow? id slot.history

def aggregate (c : Collector) : Aggregate := .ofSamples c.currentAll

end Collector

end GpuCluster.Telemetry
