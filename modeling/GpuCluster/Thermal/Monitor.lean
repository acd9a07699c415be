import GpuCluster.Broadcast
import GpuCluster.Sample
import GpuCluster.Table
import GpuCluster.Thermal.Executor

/-!
# The thermal monitor

The monitor keeps one executor for every device that it tracks, and announces every change of mode.
Executors are numbered in the order in which they are made, so that a permit finds its issuer only
as long as that very executor is kept.
-/

namespace GpuCluster.Thermal

structure Monitor where
  policy : ThermalPolicy
  executors : Table DeviceId Executor
  /-- The number of the next executor. -/
  nextSerial : Nat
  transitions : Channel Transition

namespace Monitor

/-- A monitor without devices, numbering its executors from `firstSerial`. -/
def start (policy : ThermalPolicy) (eventBuffer firstSerial : Nat) : Monitor where
  policy
  executors := .empty
  nextSerial := firstSerial
  transitions := .ofBuffer eventBuffer

def tracks (m : Monitor) (id : DeviceId) : Bool := m.executors.contains id

/-- Starts to track a device, unless it is tracked already. -/
def register (m : Monitor) (id : DeviceId) (calibration : Calibration Float) : Monitor :=
  if m.tracks id then m
  else { m with
    executors := m.executors.insert id (.start m.policy id m.nextSerial calibration)
    nextSerial := m.nextSerial + 1 }

def remove (m : Monitor) (id : DeviceId) : Monitor :=
  { m with executors := m.executors.erase id }

def clear (m : Monitor) : Monitor :=
  { m with executors := .empty }

/-- The reading that a sample contains. -/
def readingOf (s : Sample Float) : Reading := ⟨s.takenAt, s.temperature, s.power⟩

/-- Hands a sample to the executor of its device; nothing when the device is not tracked. -/
def observe (m : Monitor) (s : Sample Float) : Option (Monitor × Option Transition) :=
  (m.executors.get? s.deviceId).map fun e =>
    let (e, transition) := e.observe (readingOf s)
    ({ m with
      executors := m.executors.insert s.deviceId e
      transitions := m.transitions.sendAll transition.toList }, transition)

def state? (m : Monitor) (id : DeviceId) : Option State :=
  (m.executors.get? id).bind (·.state)

def mode? (m : Monitor) (id : DeviceId) : Option Mode :=
  (m.executors.get? id).map (·.mode)

/-- The modes of all tracked devices, by id. -/
def modes (m : Monitor) : List (DeviceId × Mode) :=
  m.executors.entries.map fun (id, e) => (id, e.mode)

/-- The states of all devices with a reading, by id. -/
def states (m : Monitor) : List State :=
  m.executors.values.filterMap (·.state)

/-- The hottest so far, after one more state; the earlier one stays when both are as hot. -/
def hotter (best : Option State) (s : State) : Option State :=
  match best with
  | none => some s
  | some b => if s.current ≤ b.current then best else some s

/-- The device with the highest temperature, the first by id among several. -/
def hottest? (m : Monitor) : Option State :=
  m.states.foldl hotter none

/-- Why no compute is admitted. -/
inductive Refusal where
  | unknownDevice (id : DeviceId)
  | tooHot (cause : TooHot)

/-- Admits one unit of compute on a device. -/
def beginCompute (m : Monitor) (id : DeviceId) : Except Refusal (Monitor × Permit) :=
  match m.executors.get? id with
  | none => .error (.unknownDevice id)
  | some e =>
    match e.beginCompute with
    | .error cause => .error (.tooHot cause)
    | .ok (e, permit) => .ok ({ m with executors := m.executors.insert id e }, permit)

/-- Takes a permit back; nothing is counted when its issuer is gone. -/
def giveBack (m : Monitor) (p : Permit) : Monitor :=
  { m with executors := m.executors.modify p.deviceId (·.giveBack p) }

end Monitor

end GpuCluster.Thermal
