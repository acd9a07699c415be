import GpuCluster.Distribution.Split
import GpuCluster.Json.Record
import GpuCluster.Score

/-!
# Scores and strategies in JSON
-/

namespace GpuCluster

open Json

namespace Score

def toJson (s : Score Float) : Json :=
  .object
    [("device_id", ofText s.deviceId),
     ("value", ofFloat s.value),
     ("available_bytes", ofNat s.free),
     ("components", .object
       [("memory", ofFloat s.memory),
        ("compute", ofFloat s.compute),
        ("thermal_penalty", ofFloat s.penalty),
        ("mode_factor", ofFloat s.modeFactor)])]

/-- The components of a score: memory, compute, penalty and mode factor. -/
def components? (j : Json) : Option (Float × Float × Float × Float) := do
  let r ← Record.read? ["memory", "compute", "thermal_penalty", "mode_factor"] j
  let memory ← r.required? "memory" float?
  let compute ← r.required? "compute" float?
  let penalty ← r.required? "thermal_penalty" float?
  let modeFactor ← r.required? "mode_factor" float?
  some (memory, compute, penalty, modeFactor)

def ofJson? (j : Json) : Option (Score Float) := do
  let r ← Record.read? ["device_id", "value", "available_bytes", "components"] j
  let deviceId ← r.required? "device_id" text?
  let value ← r.required? "value" float?
  let free ← r.required? "available_bytes" (natOfWidth? 64)
  let (memory, compute, penalty, modeFactor) ← r.required? "components" components?
  some { deviceId, value, free, memory, compute, penalty, modeFactor }

end Score

namespace Distribution.Strategy

def toJson (s : Strategy) : Json := Json.ofText s.name

def ofJson? : Json → Option Strategy := oneOf? names

end Distribution.Strategy

end GpuCluster
