import GpuCluster.Json.Buffer
import GpuCluster.Json.Scan
import GpuCluster.Wire.Device
import GpuCluster.Wire.Message
import GpuCluster.Wire.Sample

/-!
# Envelopes as text

The version of an envelope is looked at before anything else, so that a message in a newer schema is
refused for its version and not for its form. A message whose content stands before its type has the
content loaded first.
-/

namespace GpuCluster.Wire

open Json

namespace Registration

def toJson (r : Registration) : Json :=
  .object [("hostname", ofText r.hostname), ("port", ofNat r.listensOn),
    ("device", r.device.toJson)]

def ofJson? (j : Json) : Option Registration := do
  let r ← Record.read? ["hostname", "port", "device"] j
  let hostname ← r.required? "hostname" text?
  let listensOn ← r.required? "port" (natOfWidth? 16)
  let device ← r.required? "device" Device.ofJson?
  some { hostname, listensOn, device }

end Registration

namespace Heartbeat

def toJson (h : Heartbeat) : Json :=
  .object [("device_id", ofText h.deviceId), ("metrics", h.sample.toJson),
    ("is_available", .bool h.isAvailable), ("error_message", ofOption ofText h.lastError)]

def ofJson? (j : Json) : Option Heartbeat := do
  let r ← Record.read? ["device_id", "metrics", "is_available", "error_message"] j
  let deviceId ← r.required? "device_id" text?
  let sample ← r.required? "metrics" Sample.ofJson?
  let isAvailable ← r.required? "is_available" bool?
  let lastError ← r.withDefault? "error_message" (nullable? text?) none
  some { deviceId, sample, isAvailable, lastError }

end Heartbeat

namespace Message

def toJson : Message → Json
  | registration r => .object [("type", ofText "registration"), ("payload", r.toJson)]
  | heartbeat h => .object [("type", ofText "heartbeat"), ("payload", h.toJson)]

/-- The message of a type. -/
def ofPayload? (type payload : Json) : Option Message := do
  let name ← type.constant?
  if name = "registration" then (Registration.ofJson? payload).map registration
  else if name = "heartbeat" then (Heartbeat.ofJson? payload).map heartbeat
  else none

/-- Reads a message that lies inside `outer` arrays and objects. -/
def ofJson? (outer : Nat) (j : Json) : Option Message := do
  let r ← Record.read? ["type", "payload"] j
  match r.given with
  | [("type", type), ("payload", payload)] => ofPayload? type payload
  | [("payload", payload), ("type", type)] =>
    (payload.buffered? (outer + 1)).bind (ofPayload? type)
  | _ => none

end Message

namespace Envelope

def toJson (e : Envelope) : Json :=
  .object [("version", ofNat e.version), ("sent_at", e.sentAt.toJson),
    ("message", e.message.toJson)]

def ofJson? (j : Json) : Option Envelope := do
  let r ← Record.read? ["version", "sent_at", "message"] j
  let version ← r.required? "version" (natOfWidth? 32)
  let sentAt ← r.required? "sent_at" Timestamp.ofJson?
  let message ← r.required? "message" (Message.ofJson? 1)
  some { version, sentAt, message }

/-- The version that a value claims, whatever else it holds. -/
def version? (j : Json) : Option Nat := do
  let r ← Record.read? ["version"] j
  r.required? "version" (natOfWidth? 32)

def encode (e : Envelope) : String := e.toJson.compact

/-- The envelope that a text stands for, if its version is known and its message has no fault. -/
def decode (text : String) : Except Error Envelope :=
  match Json.parse? text with
  | none => .error .unreadable
  | some j =>
    match version? j with
    | none => .error .unreadable
    | some version =>
      if version ≠ schemaVersion then .error (.unsupportedSchema version)
      else
        match ofJson? j with
        | none => .error .unreadable
        | some e =>
          match e.message.fault? with
          | some fault => .error fault
          | none => .ok e

end Envelope

end GpuCluster.Wire
