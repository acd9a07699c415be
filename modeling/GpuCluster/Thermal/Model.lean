import GpuCluster.Device
import GpuCluster.Scalar

/-!
# The thermal model

A device is one thermal capacitance that is charged through one thermal resistance to the ambient
air. At constant power its temperature approaches the steady state
`ambient + power · resistance`, the distance shrinking by the factor `exp (-1 / timeConstant)` in
every second.
-/

namespace GpuCluster.Thermal

open Scalar

/-- The calibration of a device. -/
structure Calibration (α : Type) where
  /-- Degrees per watt. -/
  resistance : α
  /-- Seconds. -/
  timeConstant : α

namespace Calibration

def ofClass : DeviceClass → Calibration Float
  | .datacenter => ⟨0.075, 45⟩
  | .desktop => ⟨0.11, 25⟩
  | .mobile => ⟨4, 12⟩
  | .integrated => ⟨1.3, 15⟩

/-- Without a class: hotter and sooner than any class. -/
def standard : Calibration Float := ⟨0.15, 10⟩

end Calibration

structure Model (α : Type) where
  calibration : Calibration α
  ambient : α

namespace Model

variable {α : Type} [Scalar α]

/-- The temperature that constant power leads to; negative power counts as none. -/
def steadyState (m : Model α) (power : α) : α :=
  m.ambient + larger power (ofNat 0) * m.calibration.resistance

/-- What is left of a temperature difference after some seconds. -/
def decay (m : Model α) (seconds : α) : α :=
  exp (-larger seconds (ofNat 0) / m.calibration.timeConstant)

/-- The temperature after `horizon` seconds at constant power. -/
def predict (m : Model α) (current power horizon : α) : α :=
  let steady := m.steadyState power
  steady + (current - steady) * m.decay horizon

/-- The seconds until the target is reached at constant power, nothing if it never is. -/
def timeToReach? (m : Model α) (current power target : α) : Option α :=
  if isNegligible (current - target) then some (ofNat 0)
  else
    let steady := m.steadyState power
    let gap := current - steady
    if isNegligible gap then none
    else
      let ratio := (target - steady) / gap
      if atMost ratio (ofNat 0) || atMost (ofNat 1) ratio then none
      else some (-m.calibration.timeConstant * log ratio)

/-- The constant power that leads to the target after `horizon` seconds, zero if none does. -/
def powerFor (m : Model α) (current target horizon : α) : α :=
  if atMost horizon (ofNat 0) then ofNat 0
  else
    let left := m.decay horizon
    let steady := (target - current * left) / (ofNat 1 - left)
    larger ((steady - m.ambient) / m.calibration.resistance) (ofNat 0)

end Model

end GpuCluster.Thermal
