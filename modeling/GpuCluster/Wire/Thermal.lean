import GpuCluster.Thermal.Executor
import GpuCluster.Wire.Sample

/-!
# Thermal state in JSON
-/

namespace GpuCluster.Thermal

open Json

namespace Mode

def toJson (m : Mode) : Json := ofText m.name

def ofJson? : Json → Option Mode := oneOf? names

end Mode

namespace Calibration

def toJson (c : Calibration Float) : Json :=
  .object [("resistance_c_per_w", ofFloat c.resistance),
    ("time_constant_secs", ofFloat c.timeConstant)]

def ofJson? (j : Json) : Option (Calibration Float) := do
  let r ← Record.read? ["resistance_c_per_w", "time_constant_secs"] j
  let resistance ← r.required? "resistance_c_per_w" float?
  let timeConstant ← r.required? "time_constant_secs" float?
  some { resistance, timeConstant }

end Calibration

namespace Reading

def toJson (r : Reading) : Json :=
  .object [("timestamp", r.takenAt.toJson), ("temperature_c", ofFloat r.temperature),
    ("power_watts", ofFloat r.power)]

def ofJson? (j : Json) : Option Reading := do
  let r ← Record.read? ["timestamp", "temperature_c", "power_watts"] j
  let takenAt ← r.required? "timestamp" Timestamp.ofJson?
  let temperature ← r.required? "temperature_c" float?
  let power ← r.required? "power_watts" float?
  some { takenAt, temperature, power }

end Reading

namespace State

def toJson (s : State) : Json :=
  .object
    [("device_id", ofText s.deviceId),
     ("current_temperature_c", ofFloat s.current),
     ("predicted_temperature_c", ofFloat s.predicted),
     ("horizon_secs", ofFloat s.horizon),
     ("safety_margin_c", ofFloat s.margin),
     ("mode", s.mode.toJson),
     ("updated_at", s.updatedAt.toJson)]

def ofJson? (j : Json) : Option State := do
  let r ← Record.read? ["device_id", "current_temperature_c", "predicted_temperature_c",
    "horizon_secs", "safety_margin_c", "mode", "updated_at"] j
  let deviceId ← r.required? "device_id" text?
  let current ← r.required? "current_temperature_c" float?
  let predicted ← r.required? "predicted_temperature_c" float?
  let horizon ← r.required? "horizon_secs" float?
  let margin ← r.required? "safety_margin_c" float?
  let mode ← r.required? "mode" Mode.ofJson?
  let updatedAt ← r.required? "updated_at" Timestamp.ofJson?
  some { deviceId, current, predicted, horizon, margin, mode, updatedAt }

end State

namespace Transition

def toJson (t : Transition) : Json :=
  .object
    [("device_id", ofText t.deviceId),
     ("from", t.source.toJson),
     ("to", t.target.toJson),
     ("temperature_c", ofFloat t.temperature),
     ("predicted_temperature_c", ofFloat t.predicted),
     ("at", t.changedAt.toJson)]

def ofJson? (j : Json) : Option Transition := do
  let r ← Record.read? ["device_id", "from", "to", "temperature_c", "predicted_temperature_c",
    "at"] j
  let deviceId ← r.required? "device_id" text?
  let source ← r.required? "from" Mode.ofJson?
  let target ← r.required? "to" Mode.ofJson?
  let temperature ← r.required? "temperature_c" float?
  let predicted ← r.required? "predicted_temperature_c" float?
  let changedAt ← r.required? "at" Timestamp.ofJson?
  some { deviceId, source, target, temperature, predicted, changedAt }

end Transition

end GpuCluster.Thermal
