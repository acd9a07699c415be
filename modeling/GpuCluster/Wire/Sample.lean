import GpuCluster.Aggregate
import GpuCluster.Json.Record
import GpuCluster.Timestamp.Rfc3339

/-!
# Samples and aggregates in JSON
-/

namespace GpuCluster

open Json

namespace Timestamp

def toJson (t : Timestamp) : Json := ofText t.rfc3339

def ofJson? (j : Json) : Option Timestamp := j.text?.bind ofRfc3339?

end Timestamp

namespace Sample

def fields (s : Sample Float) : List (String × Json) :=
  [("device_id", ofText s.deviceId),
   ("timestamp", s.takenAt.toJson),
   ("memory_used_bytes", ofInt s.used),
   ("memory_total_bytes", ofInt s.total),
   ("utilization_pct", ofFloat s.utilization),
   ("power_watts", ofFloat s.power),
   ("temperature_c", ofFloat s.temperature),
   ("clock_mhz", ofNat s.clock)]

def toJson (s : Sample Float) : Json := .object s.fields

def ofJson? (j : Json) : Option (Sample Float) := do
  let r ← Record.read? ["device_id", "timestamp", "memory_used_bytes", "memory_total_bytes",
    "utilization_pct", "power_watts", "temperature_c", "clock_mhz"] j
  let deviceId ← r.required? "device_id" text?
  let takenAt ← r.required? "timestamp" Timestamp.ofJson?
  let used ← r.required? "memory_used_bytes" int64?
  let total ← r.required? "memory_total_bytes" int64?
  let utilization ← r.required? "utilization_pct" float?
  let power ← r.required? "power_watts" float?
  let temperature ← r.required? "temperature_c" float?
  let clock ← r.required? "clock_mhz" (natOfWidth? 32)
  some { deviceId, takenAt, used, total, utilization, power, temperature, clock }

end Sample

namespace Hottest

def toJson (h : Hottest) : Json :=
  .object [("device_id", ofText h.deviceId), ("temperature_c", ofFloat h.temperature)]

def ofJson? (j : Json) : Option Hottest := do
  let r ← Record.read? ["device_id", "temperature_c"] j
  let deviceId ← r.required? "device_id" text?
  let temperature ← r.required? "temperature_c" float?
  some { deviceId, temperature }

end Hottest

/-- An aggregate and the time of its computation. -/
structure AggregateReport where
  aggregate : Aggregate
  computedAt : Timestamp

namespace AggregateReport

def toJson (report : AggregateReport) : Json :=
  let a := report.aggregate
  .object
    [("device_count", ofNat a.devices),
     ("mean_utilization_pct", ofFloat a.meanUtilization),
     ("mean_temperature_c", ofFloat a.meanTemperature),
     ("total_memory_bytes", ofNat a.total),
     ("used_memory_bytes", ofNat a.used),
     ("available_memory_bytes", ofNat a.free),
     ("total_power_watts", ofFloat a.power),
     ("hottest", ofOption Hottest.toJson a.hottest),
     ("computed_at", report.computedAt.toJson)]

def ofJson? (j : Json) : Option AggregateReport := do
  let r ← Record.read? ["device_count", "mean_utilization_pct", "mean_temperature_c",
    "total_memory_bytes", "used_memory_bytes", "available_memory_bytes", "total_power_watts",
    "hottest", "computed_at"] j
  let devices ← r.required? "device_count" (natOfWidth? 64)
  let meanUtilization ← r.required? "mean_utilization_pct" float?
  let meanTemperature ← r.required? "mean_temperature_c" float?
  let total ← r.required? "total_memory_bytes" (natOfWidth? 64)
  let used ← r.required? "used_memory_bytes" (natOfWidth? 64)
  let free ← r.required? "available_memory_bytes" (natOfWidth? 64)
  let power ← r.required? "total_power_watts" float?
  let hottest ← r.optional? "hottest" Hottest.ofJson?
  let computedAt ← r.required? "computed_at" Timestamp.ofJson?
  some ⟨{ devices, meanUtilization, meanTemperature, total, used, free, power, hottest },
    computedAt⟩

end AggregateReport

end GpuCluster
