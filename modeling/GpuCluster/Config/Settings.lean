import GpuCluster.Config
import GpuCluster.Json.Record
import GpuCluster.Toml.Value

/-!
# Reading settings

A configuration is read in the same way from any notation that has records. Every field may be left
out and then has its default, and fields that are not known are skipped.
-/

namespace GpuCluster

/-- How the values of a notation are read. -/
class Settings (σ : Type) where
  /-- A natural number below `2 ^ bits`. -/
  nat? : (bits : Nat) → σ → Option Nat
  /-- A number; integers count too. -/
  float? : σ → Option Float
  bool? : σ → Option Bool
  text? : σ → Option String
  /-- A value that may be left undefined. -/
  nullable? : {α : Type} → (σ → Option α) → σ → Option (Option α)
  /-- The fields of a record, given the names that they can have in their order. -/
  fields? : List String → σ → Option (List (String × σ))

instance : Settings Json where
  nat? := Json.natOfWidth?
  float? := Json.float?
  bool? := Json.bool?
  text? := Json.text?
  nullable? := Json.nullable?
  fields? names j := (Json.Record.read? names j).map (·.given)

/-- In TOML a record is a table, an array of its fields in order, or a date, which has no fields. -/
instance : Settings Toml where
  nat?
    | bits, .integer n => if 0 ≤ n ∧ n < Nat.pow 2 bits then some n.toNat else none
    | _, _ => none
  float?
    | .float x => some x
    | .integer n => some (Float.ofInt n)
    | _ => none
  bool?
    | .boolean b => some b
    | _ => none
  text?
    | .string s => some s
    | _ => none
  nullable? read? v := (read? v).map some
  fields?
    | _, .table entries => some entries
    | names, .array items => some (names.zip items)
    | _, .instant => some []
    | _, _ => none

namespace Settings

variable {σ : Type} [Settings σ]

/-- The field of that name, or its default when it is left out. -/
def field? {α : Type} (fields : List (String × σ)) (name : String) (read? : σ → Option α)
    (default : α) : Option α :=
  match fields.lookup name with
  | none => some default
  | some v => read? v

/-- A number of sixty-four bits. -/
def word? : σ → Option Nat := nat? 64

end Settings

open Settings

variable {σ : Type} [Settings σ]

def ChangeThresholds.read? (v : σ) : Option ChangeThresholds := do
  let standard : ChangeThresholds := {}
  let fields ← fields? ["utilization_pct", "temperature_c", "memory_fraction"] v
  let utilization ← field? fields "utilization_pct" float? standard.utilization
  let temperature ← field? fields "temperature_c" float? standard.temperature
  let memoryFraction ← field? fields "memory_fraction" float? standard.memoryFraction
  some { utilization, temperature, memoryFraction }

def TelemetryPolicy.read? (v : σ) : Option TelemetryPolicy := do
  let standard : TelemetryPolicy := {}
  let fields ← fields?
    ["sample_interval_ms", "history_capacity", "change_thresholds", "event_buffer"] v
  let intervalMs ← field? fields "sample_interval_ms" word? standard.intervalMs
  let historyCapacity ← field? fields "history_capacity" word? standard.historyCapacity
  let thresholds ←
    field? fields "change_thresholds" ChangeThresholds.read? standard.thresholds
  let eventBuffer ← field? fields "event_buffer" word? standard.eventBuffer
  some { intervalMs, historyCapacity, thresholds, eventBuffer }

def ScoringPolicy.read? (v : σ) : Option (ScoringPolicy Float) := do
  let fields ← fields? ["memory_weight", "utilization_weight", "high_water_c", "critical_c",
    "precision_reduced_factor"] v
  let memoryWeight ← field? fields "memory_weight" float? standard.memoryWeight
  let utilizationWeight ←
    field? fields "utilization_weight" float? standard.utilizationWeight
  let highWater ← field? fields "high_water_c" float? standard.highWater
  let critical ← field? fields "critical_c" float? standard.critical
  let reducedFactor ← field? fields "precision_reduced_factor" float? standard.reducedFactor
  some { memoryWeight, utilizationWeight, highWater, critical, reducedFactor }

def PlacementPolicy.read? (v : σ) : Option PlacementPolicy := do
  let standard : PlacementPolicy := {}
  let fields ←
    fields? ["timeout_ms", "memory_tolerance_pct", "utilization_tolerance_pct"] v
  let timeoutMs ← field? fields "timeout_ms" word? standard.timeoutMs
  let memoryTolerance ← field? fields "memory_tolerance_pct" float? standard.memoryTolerance
  let utilizationTolerance ←
    field? fields "utilization_tolerance_pct" float? standard.utilizationTolerance
  some { timeoutMs, memoryTolerance, utilizationTolerance }

def ThermalPolicy.read? (v : σ) : Option ThermalPolicy := do
  let standard : ThermalPolicy := {}
  let fields ← fields? ["critical_c", "soft_margin_c", "resume_margin_c", "horizon_secs",
    "ambient_c", "precision_reduction", "history_capacity"] v
  let critical ← field? fields "critical_c" float? standard.critical
  let softMargin ← field? fields "soft_margin_c" float? standard.softMargin
  let resumeMargin ← field? fields "resume_margin_c" float? standard.resumeMargin
  let horizon ← field? fields "horizon_secs" float? standard.horizon
  let ambient ← field? fields "ambient_c" float? standard.ambient
  let reducesPrecision ← field? fields "precision_reduction" bool? standard.reducesPrecision
  let historyCapacity ← field? fields "history_capacity" word? standard.historyCapacity
  some { critical, softMargin, resumeMargin, horizon, ambient, reducesPrecision, historyCapacity }

def ShutdownPolicy.read? (v : σ) : Option ShutdownPolicy := do
  let standard : ShutdownPolicy := {}
  let fields ← fields? ["grace_period_ms"] v
  let gracePeriodMs ← field? fields "grace_period_ms" word? standard.gracePeriodMs
  some { gracePeriodMs }

def LoggingPolicy.read? (v : σ) : Option LoggingPolicy := do
  let standard : LoggingPolicy := {}
  let fields ← fields? ["level", "format", "file"] v
  let level ← field? fields "level" text? standard.level
  let format ← field? fields "format" text? standard.format
  let file ← field? fields "file" (nullable? text?) standard.file
  some { level, format, file }

def Config.read? (v : σ) : Option Config := do
  let standard : Config := {}
  let fields ←
    fields? ["telemetry", "scoring", "placement", "thermal", "shutdown", "logging"] v
  let telemetry ← field? fields "telemetry" TelemetryPolicy.read? standard.telemetry
  let scoring ← field? fields "scoring" ScoringPolicy.read? standard.scoring
  let placement ← field? fields "placement" PlacementPolicy.read? standard.placement
  let thermal ← field? fields "thermal" ThermalPolicy.read? standard.thermal
  let shutdown ← field? fields "shutdown" ShutdownPolicy.read? standard.shutdown
  let logging ← field? fields "logging" LoggingPolicy.read? standard.logging
  some { telemetry, scoring, placement, thermal, shutdown, logging }

end GpuCluster
