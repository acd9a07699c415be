import GpuCluster.Number.Total
import GpuCluster.Sample

/-!
# Rolling samples up

The current samples of all devices give means, sums and the hottest device: the one with the highest
temperature, and of several such the one with the smallest id.
-/

namespace GpuCluster

/-- A device and its temperature. -/
structure Hottest where
  deviceId : DeviceId
  temperature : Float

structure Aggregate where
  devices : Nat
  meanUtilization : Float
  meanTemperature : Float
  total : Nat
  used : Nat
  free : Nat
  power : Float
  hottest : Option Hottest

namespace Aggregate

/-- `s` is hotter than `h`, or as hot and first by id. -/
def isHotter (s : Sample Float) (h : Hottest) : Bool :=
  h.temperature < s.temperature || (s.temperature == h.temperature && s.deviceId < h.deviceId)

/-- The hottest so far, after one more sample. -/
def hotter (best : Option Hottest) (s : Sample Float) : Option Hottest :=
  match best with
  | none => some ⟨s.deviceId, s.temperature⟩
  | some h => if isHotter s h then some ⟨s.deviceId, s.temperature⟩ else best

/-- Adds up from the left, starting at zero. -/
def sum (values : List Float) : Float :=
  values.foldl (· + ·) 0

def mean (values : List Float) : Float :=
  if values.isEmpty then 0 else sum values / Float.ofNat values.length

/-- The roll-up of `samples`, numbers being added in their order. -/
def ofSamples (samples : List (Sample Float)) : Aggregate :=
  let total := Number.total (samples.map (·.total.toNat))
  let used := Number.total (samples.map (·.used.toNat))
  { devices := samples.length
    meanUtilization := mean (samples.map (·.utilization))
    meanTemperature := mean (samples.map (·.temperature))
    total
    used
    free := total - used
    power := sum (samples.map (·.power))
    hottest := samples.foldl hotter none }

end Aggregate

end GpuCluster
