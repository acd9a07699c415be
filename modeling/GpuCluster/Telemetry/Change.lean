import GpuCluster.Config
import GpuCluster.Sample

/-!
# Changes worth announcing

A sample is announced when it is the first of its device, or when it is further from the sample that
was announced last than one of the thresholds.
-/

namespace GpuCluster.Telemetry

structure Change where
  sample : Sample Float
  isFirst : Bool
  utilizationDelta : Float
  temperatureDelta : Float
  memoryDelta : Float

namespace Change

/-- The step from the sample that was announced last. -/
def since (last : Option (Sample Float)) (s : Sample Float) : Change :=
  match last with
  | none => ⟨s, true, 0, 0, 0⟩
  | some l =>
    { sample := s
      isFirst := false
      utilizationDelta := s.utilization - l.utilization
      temperatureDelta := s.temperature - l.temperature
      memoryDelta := s.usedFraction - l.usedFraction }

def isNotable (t : ChangeThresholds) (c : Change) : Bool :=
  c.isFirst || t.utilization < c.utilizationDelta.abs || t.temperature < c.temperatureDelta.abs ||
    t.memoryFraction < c.memoryDelta.abs

end Change

end GpuCluster.Telemetry
