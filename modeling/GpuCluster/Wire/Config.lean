import GpuCluster.Config.Settings

/-!
# Configurations in JSON

They are read like any settings and written with all fields.
-/

namespace GpuCluster

open Json

def ChangeThresholds.toJson (t : ChangeThresholds) : Json :=
  .object [("utilization_pct", ofFloat t.utilization), ("temperature_c", ofFloat t.temperature),
    ("memory_fraction", ofFloat t.memoryFraction)]

def TelemetryPolicy.toJson (p : TelemetryPolicy) : Json :=
  .object [("sample_interval_ms", ofNat p.intervalMs),
    ("history_capacity", ofNat p.historyCapacity), ("change_thresholds", p.thresholds.toJson),
    ("event_buffer", ofNat p.eventBuffer)]

def ScoringPolicy.toJson (p : ScoringPolicy Float) : Json :=
  .object [("memory_weight", ofFloat p.memoryWeight),
    ("utilization_weight", ofFloat p.utilizationWeight), ("high_water_c", ofFloat p.highWater),
    ("critical_c", ofFloat p.critical), ("precision_reduced_factor", ofFloat p.reducedFactor)]

def PlacementPolicy.toJson (p : PlacementPolicy) : Json :=
  .object [("timeout_ms", ofNat p.timeoutMs), ("memory_tolerance_pct", ofFloat p.memoryTolerance),
    ("utilization_tolerance_pct", ofFloat p.utilizationTolerance)]

def ThermalPolicy.toJson (p : ThermalPolicy) : Json :=
  .object [("critical_c", ofFloat p.critical), ("soft_margin_c", ofFloat p.softMargin),
    ("resume_margin_c", ofFloat p.resumeMargin), ("horizon_secs", ofFloat p.horizon),
    ("ambient_c", ofFloat p.ambient), ("precision_reduction", .bool p.reducesPrecision),
    ("history_capacity", ofNat p.historyCapacity)]

def ShutdownPolicy.toJson (p : ShutdownPolicy) : Json :=
  .object [("grace_period_ms", ofNat p.gracePeriodMs)]

def LoggingPolicy.toJson (p : LoggingPolicy) : Json :=
  .object [("level", ofText p.level), ("format", ofText p.format),
    ("file", ofOption ofText p.file)]

namespace Config

def toJson (c : Config) : Json :=
  .object [("telemetry", c.telemetry.toJson), ("scoring", c.scoring.toJson),
    ("placement", c.placement.toJson), ("thermal", c.thermal.toJson),
    ("shutdown", c.shutdown.toJson), ("logging", c.logging.toJson)]

def ofJson? (j : Json) : Option Config := read? j

end Config

end GpuCluster
