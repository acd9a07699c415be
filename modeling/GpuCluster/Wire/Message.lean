import GpuCluster.Error

/-!
# Messages between hosts

A host announces its devices by registrations and reports on them by heartbeats. Each message
travels in an envelope that carries the version of the schema.
-/

namespace GpuCluster.Wire

/-- Announces a device and the address at which its host listens. -/
structure Registration where
  hostname : String
  listensOn : Nat
  device : Device

/-- Reports the state of a device. -/
structure Heartbeat where
  deviceId : DeviceId
  sample : Sample Float
  isAvailable : Bool
  lastError : Option String

inductive Message where
  | registration (content : Registration)
  | heartbeat (content : Heartbeat)

structure Envelope where
  version : Nat
  sentAt : Timestamp
  message : Message

/-- The version of the schema that is written and read. -/
def schemaVersion : Nat := 1

def Registration.endpoint (r : Registration) : String :=
  r.hostname ++ ":" ++ toString r.listensOn

namespace Message

/-- The device that a message is about. -/
def deviceId : Message → DeviceId
  | registration r => r.device.id
  | heartbeat h => h.deviceId

/-- The first fault of a message: its host name or device, its ids or sample. -/
def fault? : Message → Option Error
  | registration r =>
    if Text.allBlank r.hostname then some .blankHostname else r.device.fault?.map .device
  | heartbeat h =>
    if h.deviceId ≠ h.sample.deviceId then some (.foreignSample h.deviceId h.sample.deviceId)
    else h.sample.fault?.map .sample

end Message

def Envelope.of (sentAt : Timestamp) (message : Message) : Envelope :=
  ⟨schemaVersion, sentAt, message⟩

end GpuCluster.Wire
