import GpuCluster.Thermal.Mode
import GpuCluster.Thermal.Model
import GpuCluster.Timestamp
import GpuCluster.Window

/-!
# Executors

An executor follows the temperature of one device and admits compute on it. Each admission issues a
permit, which names its issuer; a permit is counted until it is given back to that issuer.
-/

namespace GpuCluster.Thermal

structure Reading where
  takenAt : Timestamp
  temperature : Float
  power : Float

/-- The thermal condition of a device at its latest reading. -/
structure State where
  deviceId : DeviceId
  current : Float
  predicted : Float
  /-- How far ahead the forecast looks, in seconds. -/
  horizon : Float
  /-- Distance of the hotter of measurement and forecast from the critical temperature. -/
  margin : Float
  mode : Mode
  updatedAt : Timestamp

/-- A change of mode. -/
structure Transition where
  deviceId : DeviceId
  source : Mode
  target : Mode
  temperature : Float
  predicted : Float
  changedAt : Timestamp

/-- The right to one unit of compute. -/
structure Permit where
  deviceId : DeviceId
  issuer : Nat
  deriving DecidableEq

structure Executor where
  deviceId : DeviceId
  /-- Tells this executor from all others, also from earlier ones of the same device. -/
  serial : Nat
  model : Model Float
  thresholds : Thresholds
  horizon : Float
  mode : Mode
  state : Option State
  history : Window Reading
  /-- Permits that have not been given back. -/
  inFlight : Nat

/-- A refusal of compute on a device that is too hot. -/
structure TooHot where
  deviceId : DeviceId
  temperature : Float

namespace Executor

def start (p : ThermalPolicy) (deviceId : DeviceId) (serial : Nat)
    (calibration : Calibration Float) : Executor where
  deviceId
  serial
  model := ⟨calibration, p.ambient⟩
  thresholds := .of p
  horizon := p.horizon
  mode := .running
  state := none
  history := .ofCapacity p.historyCapacity
  inFlight := 0

/-- The condition that a reading leads to. -/
def assess (e : Executor) (r : Reading) : State :=
  let predicted := e.model.predict r.temperature r.power e.horizon
  { deviceId := e.deviceId
    current := r.temperature
    predicted
    horizon := e.horizon
    margin := e.thresholds.critical - Scalar.larger r.temperature predicted
    mode := nextMode e.thresholds e.mode r.temperature predicted
    updatedAt := r.takenAt }

/-- Takes in a reading; gives the change of mode, if the mode changed. -/
def observe (e : Executor) (r : Reading) : Executor × Option Transition :=
  let state := e.assess r
  ({ e with mode := state.mode, state := some state, history := e.history.push r },
   if state.mode = e.mode then none
   else some
    { deviceId := e.deviceId
      source := e.mode
      target := state.mode
      temperature := r.temperature
      predicted := state.predicted
      changedAt := r.takenAt })

/-- Admits one unit of compute, unless the device is paused. -/
def beginCompute (e : Executor) : Except TooHot (Executor × Permit) :=
  if e.mode.acceptsWork then
    .ok ({ e with inFlight := e.inFlight + 1 }, ⟨e.deviceId, e.serial⟩)
  else
    .error ⟨e.deviceId, (e.state.map (·.current)).getD e.thresholds.critical⟩

/-- Takes a permit back; permits of other issuers do not count. -/
def giveBack (e : Executor) (p : Permit) : Executor :=
  if p.issuer = e.serial then { e with inFlight := e.inFlight - 1 } else e

theorem mode_observe (e : Executor) (r : Reading) :
    (e.observe r).1.mode = (e.assess r).mode := rfl

end Executor

end GpuCluster.Thermal
