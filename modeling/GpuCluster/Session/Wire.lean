import GpuCluster.Session.Registry
import GpuCluster.Session.Telemetry
import GpuCluster.Wire.Envelope

/-!
# Messages from and to other hosts

A registration announces a device together with its endpoint. A heartbeat sets the availability and
the last error of a registered device and then delivers its sample.
-/

namespace GpuCluster.Session

open Wire

/-- Applies the content of a heartbeat. -/
def applyHeartbeat (s : Session) (h : Heartbeat) : Reply (Option Thermal.Transition) :=
  match s.registry.get? h.deviceId with
  | none => (s, .error (.unknownDevice h.deviceId))
  | some entry =>
    let entry := { entry with isAvailable := h.isAvailable, lastError := h.lastError }
    { s with registry := s.registry.insert h.deviceId entry }.observe h.sample

/-- Applies a message, once it is found to be without fault. -/
def ingest (s : Session) (m : Message) : Reply (Option Thermal.Transition) :=
  s.call "ingest"
    (match m.fault?, m with
    | some e, _ => (s, .error e)
    | none, .registration r =>
      let (s, result) := s.announce r.device (some r.endpoint)
      (s, result.map fun _ => none)
    | none, .heartbeat h => s.applyHeartbeat h)

/-- Applies the message in an envelope that is given as text. -/
def ingestText (s : Session) (text : String) : Reply (Option Thermal.Transition) :=
  match Envelope.decode text with
  | .error e => (s, .error e)
  | .ok envelope => s.ingest envelope.message

/-- A message that announces a registered device. -/
def registrationMessage (s : Session) (id : DeviceId) (hostname : String) (listensOn : Nat) :
    Except Error Message :=
  (s.device id).map fun entry => .registration ⟨hostname, listensOn, entry.device⟩

/-- A message with the current sample of a device. -/
def heartbeatMessage (s : Session) (id : DeviceId) : Except Error Message :=
  match s.device id with
  | .error e => .error e
  | .ok entry =>
    match s.currentSample id with
    | .error e => .error e
    | .ok none => .error (.noSample id)
    | .ok (some sample) =>
      .ok (.heartbeat ⟨id, sample, entry.isAvailable, entry.lastError⟩)

end GpuCluster.Session
