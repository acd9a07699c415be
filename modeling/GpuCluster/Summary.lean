import GpuCluster.Sample
import GpuCluster.Window

/-!
# Statistics over a window

For each measured quantity a summary gives the mean, the peak and the current value. It counts the
samples with nearly full memory and the hot ones; many hot samples suggest that the hardware
throttles itself.
-/

namespace GpuCluster

structure Statistic where
  mean : Float
  peak : Float
  current : Float

namespace Statistic

/-- The statistic of a series, nothing for an empty one. -/
def of? (values : List Float) : Option Statistic :=
  values.getLast?.map fun current =>
    { mean := values.foldl (· + ·) (-0.0) / Float.ofNat values.length
      peak := values.foldl Scalar.larger (-1.0 / 0.0)
      current }

end Statistic

structure Summary where
  deviceId : DeviceId
  samples : Nat
  used : Statistic
  utilization : Statistic
  temperature : Statistic
  power : Statistic
  /-- Samples with nearly full memory. -/
  memoryAlerts : Nat
  /-- Hot samples. -/
  heatAlerts : Nat
  throttling : Bool

namespace Summary

def isNearlyFull (s : Sample Float) : Bool := 0.9 < s.usedFraction

def isHot (s : Sample Float) : Bool := 75 < s.temperature

/-- So many hot samples are not yet suspicious. -/
def toleratedHeatAlerts : Nat := 3

/-- The summary of the samples in a window, nothing when there are none. -/
def ofWindow? (id : DeviceId) (window : Window (Sample Float)) : Option Summary := do
  let samples := window.toList
  let used ← Statistic.of? (samples.map fun s => Scalar.ofInt s.used)
  let utilization ← Statistic.of? (samples.map (·.utilization))
  let temperature ← Statistic.of? (samples.map (·.temperature))
  let power ← Statistic.of? (samples.map (·.power))
  let heatAlerts := samples.countP isHot
  some
    { deviceId := id
      samples := samples.length
      used, utilization, temperature, power
      memoryAlerts := samples.countP isNearlyFull
      heatAlerts
      throttling := toleratedHeatAlerts < heatAlerts }

end Summary

end GpuCluster
