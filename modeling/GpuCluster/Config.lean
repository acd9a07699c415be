import GpuCluster.Scalar

/-!
# Configuration

Every section has defaults. A configuration is accepted when none of its sections has a fault; the
sections are checked in the order telemetry, scoring, placement, thermal.
-/

namespace GpuCluster

open Scalar

/-- How far a sample must move from the last one announced to be announced itself. -/
structure ChangeThresholds where
  utilization : Float := 5
  temperature : Float := 2
  memoryFraction : Float := 0.05

structure TelemetryPolicy where
  intervalMs : Nat := 2000
  historyCapacity : Nat := 100
  thresholds : ChangeThresholds := {}
  eventBuffer : Nat := 256

structure ScoringPolicy (α : Type) where
  memoryWeight : α
  utilizationWeight : α
  /-- Temperature up to which there is no penalty. -/
  highWater : α
  /-- Temperature from which the score is zero. -/
  critical : α
  reducedFactor : α

structure PlacementPolicy where
  /-- Time limit of the search; zero leaves no time at all. -/
  timeoutMs : Nat := 5000
  memoryTolerance : Float := 20
  utilizationTolerance : Float := 20

structure ThermalPolicy where
  critical : Float := 85
  softMargin : Float := 5
  resumeMargin : Float := 10
  horizon : Float := 5
  ambient : Float := 25
  reducesPrecision : Bool := true
  historyCapacity : Nat := 60

structure ShutdownPolicy where
  gracePeriodMs : Nat := 100

structure LoggingPolicy where
  level : String := "info"
  format : String := "text"
  file : Option String := none

namespace ScoringPolicy

/-- The policy with its numbers taken into another type. -/
def map {α β : Type} (f : α → β) (p : ScoringPolicy α) : ScoringPolicy β where
  memoryWeight := f p.memoryWeight
  utilizationWeight := f p.utilizationWeight
  highWater := f p.highWater
  critical := f p.critical
  reducedFactor := f p.reducedFactor

def standard : ScoringPolicy Float where
  memoryWeight := 0.6
  utilizationWeight := 0.4
  highWater := 80
  critical := 100
  reducedFactor := 0.5

end ScoringPolicy

structure Config where
  telemetry : TelemetryPolicy := {}
  scoring : ScoringPolicy Float := ScoringPolicy.standard
  placement : PlacementPolicy := {}
  thermal : ThermalPolicy := {}
  shutdown : ShutdownPolicy := {}
  logging : LoggingPolicy := {}

/-- What is wrong with a configuration. Fields are named with their section. -/
inductive ConfigFault (α : Type) where
  | notPositive (field : String)
  | negative (field : String)
  | negativeThreshold (name : String) (value : α)
  | notFinite (field : String) (value : α)
  | negativeWeight
  | weightSum (value : α)
  | criticalTooLow (critical highWater : α)
  | factorOutOfRange
  | resumeTooLow (resume soft : α)
  | ambientTooHigh

/-- The first fault among several checks. -/
def firstFault {β : Type} (checks : List (Option β)) : Option β :=
  checks.findSome? id

/-- The first field whose value is not a finite number. -/
def notFinite? {α : Type} [Scalar α] (fields : List (String × α)) : Option (ConfigFault α) :=
  (fields.find? fun (_, x) => !isFinite x).map fun (field, x) => .notFinite field x

namespace ChangeThresholds

def fault? (t : ChangeThresholds) : Option (ConfigFault Float) :=
  let fields := [("utilization_pct", t.utilization), ("temperature_c", t.temperature),
    ("memory_fraction", t.memoryFraction)]
  (fields.find? fun (_, x) => !x.isFinite || x < 0).map fun (name, x) => .negativeThreshold name x

end ChangeThresholds

namespace TelemetryPolicy

def fault? (p : TelemetryPolicy) : Option (ConfigFault Float) :=
  if p.intervalMs = 0 then some (.notPositive "telemetry.sample_interval_ms")
  else if p.historyCapacity = 0 then some (.notPositive "telemetry.history_capacity")
  else if p.eventBuffer = 0 then some (.notPositive "telemetry.event_buffer")
  else p.thresholds.fault?

end TelemetryPolicy

namespace ScoringPolicy

variable {α : Type} [Scalar α]

/-- How far the sum of the weights may be from one. -/
def weightTolerance : α := ratio 1 1000000

def distance (x y : α) : α :=
  if less x y then y - x else x - y

def fault? (p : ScoringPolicy α) : Option (ConfigFault α) :=
  let fields := [("scoring.memory_weight", p.memoryWeight),
    ("scoring.utilization_weight", p.utilizationWeight), ("scoring.high_water_c", p.highWater),
    ("scoring.critical_c", p.critical), ("scoring.precision_reduced_factor", p.reducedFactor)]
  firstFault
    [notFinite? fields,
     if less p.memoryWeight (ofNat 0) || less p.utilizationWeight (ofNat 0) then
       some .negativeWeight else none,
     if less weightTolerance (distance (p.memoryWeight + p.utilizationWeight) (ofNat 1)) then
       some (.weightSum (p.memoryWeight + p.utilizationWeight)) else none,
     if atMost p.critical p.highWater then some (.criticalTooLow p.critical p.highWater) else none,
     if !isBetween p.reducedFactor (ofNat 0) (ofNat 1) then some .factorOutOfRange else none]

end ScoringPolicy

namespace PlacementPolicy

def fault? (p : PlacementPolicy) : Option (ConfigFault Float) :=
  if !p.memoryTolerance.isFinite || p.memoryTolerance < 0 then
    some (.negative "placement.memory_tolerance_pct")
  else if !p.utilizationTolerance.isFinite || p.utilizationTolerance < 0 then
    some (.negative "placement.utilization_tolerance_pct")
  else none

end PlacementPolicy

namespace ThermalPolicy

/-- Forecast temperature at which a device is slowed down. -/
def softLimit (p : ThermalPolicy) : Float := p.critical - p.softMargin

/-- A paused device goes on strictly below this temperature. -/
def resumeBelow (p : ThermalPolicy) : Float := p.critical - p.resumeMargin

def fault? (p : ThermalPolicy) : Option (ConfigFault Float) :=
  let fields := [("thermal.critical_c", p.critical), ("thermal.soft_margin_c", p.softMargin),
    ("thermal.resume_margin_c", p.resumeMargin), ("thermal.horizon_secs", p.horizon),
    ("thermal.ambient_c", p.ambient)]
  firstFault
    [notFinite? fields,
     if p.softMargin < 0 then some (.negative "thermal.soft_margin_c") else none,
     if p.resumeMargin ≤ p.softMargin then some (.resumeTooLow p.resumeMargin p.softMargin)
       else none,
     if p.horizon ≤ 0 then some (.notPositive "thermal.horizon_secs") else none,
     if p.resumeBelow ≤ p.ambient then some .ambientTooHigh else none,
     if p.historyCapacity = 0 then some (.notPositive "thermal.history_capacity") else none]

end ThermalPolicy

namespace Config

def fault? (c : Config) : Option (ConfigFault Float) :=
  firstFault [c.telemetry.fault?, c.scoring.fault?, c.placement.fault?, c.thermal.fault?]

end Config

/-- The defaults pass their own checks. -/
theorem fault?_default : ({} : Config).fault?.isNone = true := by decide

end GpuCluster
