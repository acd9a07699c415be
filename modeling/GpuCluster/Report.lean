import GpuCluster.Json.Record
import GpuCluster.Session.State
import GpuCluster.Wire.Placement

/-!
# Reports

Reports show values to people: numbers with a fraction are texts, with all their digits when they
are exact and with ten significant digits when they come from a forecast. Times are in milliseconds
since the start of 1970.
-/

namespace GpuCluster.Report

def obj (members : List (String × Json)) : Json := .object members

def str (s : String) : Json := .ofText s

def nat (n : Nat) : Json := .ofNat n

def arr {α : Type} (f : α → Json) (l : List α) : Json := .array (l.map f)

/-- The value, or `null` for none. -/
def orNull {α : Type} (f : α → Json) (o : Option α) : Json := .ofOption f o

/-- A float in full; zero has no sign. -/
def exact (x : Float) : Json := str (if x == 0 then "0" else Number.inFull x)

/-- A float with ten significant digits; zero has no sign. -/
def approximate (x : Float) : Json :=
  str (if x == 0 then "0" else Number.withSignificant 10 x)

def ok (v : Json) : Json := obj [("ok", v)]

def errorFields (e : Error) : List (String × Json) :=
  let kind := ("error", str (e.kind.name))
  match e.kind with
  | .serialization | .io => [kind]
  | _ =>
    let fields := [kind, ("message", str e.message)]
    match e with
    | .infeasible f => fields ++ [("failure", f.toJson), ("indices", arr nat f.indices)]
    | _ => fields

def error (e : Error) : Json := obj (errorFields e)

def result {α : Type} (f : α → Json) : Except Error α → Json
  | .ok a => ok (f a)
  | .error e => error e

def unit : Json := .null

def bool (b : Bool) : Json := .bool b

def time (t : Timestamp) : Json := .ofInt t.toMillis

def sample (s : Sample Float) : Json :=
  obj [("device_id", str s.deviceId), ("ts", time s.takenAt), ("used", .ofInt s.used),
    ("total", .ofInt s.total), ("clock", nat s.clock), ("util", exact s.utilization),
    ("power", exact s.power), ("temp", exact s.temperature)]

def precision (p : Precision) : Json := str p.name

def device (d : Device) : Json :=
  obj [("id", str d.id), ("name", str d.name), ("vendor", str d.vendor.title),
    ("architecture", str d.architecture), ("memory_total", nat d.memory),
    ("compute_units", nat d.computeUnits), ("precisions", arr precision d.precisions),
    ("device_class", str d.deviceClass.name), ("memory_bandwidth_gbps", exact d.bandwidth),
    ("topology_group", orNull str d.group)]

def config (c : Config) : Json :=
  obj
    [("telemetry", obj [("sample_interval_ms", nat c.telemetry.intervalMs),
      ("history_capacity", nat c.telemetry.historyCapacity),
      ("event_buffer", nat c.telemetry.eventBuffer),
      ("utilization_pct", exact c.telemetry.thresholds.utilization),
      ("temperature_c", exact c.telemetry.thresholds.temperature),
      ("memory_fraction", exact c.telemetry.thresholds.memoryFraction)]),
     ("scoring", obj [("memory_weight", exact c.scoring.memoryWeight),
      ("utilization_weight", exact c.scoring.utilizationWeight),
      ("high_water_c", exact c.scoring.highWater), ("critical_c", exact c.scoring.critical),
      ("precision_reduced_factor", exact c.scoring.reducedFactor)]),
     ("placement", obj [("timeout_ms", nat c.placement.timeoutMs),
      ("memory_tolerance_pct", exact c.placement.memoryTolerance),
      ("utilization_tolerance_pct", exact c.placement.utilizationTolerance)]),
     ("thermal", obj [("critical_c", exact c.thermal.critical),
      ("soft_margin_c", exact c.thermal.softMargin),
      ("resume_margin_c", exact c.thermal.resumeMargin),
      ("horizon_secs", exact c.thermal.horizon), ("ambient_c", exact c.thermal.ambient),
      ("precision_reduction", bool c.thermal.reducesPrecision),
      ("history_capacity", nat c.thermal.historyCapacity),
      ("soft_limit_c", exact c.thermal.softLimit),
      ("resume_below_c", exact c.thermal.resumeBelow)]),
     ("shutdown", obj [("grace_period_ms", nat c.shutdown.gracePeriodMs)]),
     ("logging", obj [("level", str c.logging.level), ("format", str c.logging.format),
      ("file", orNull str c.logging.file)])]

def aggregate (a : Aggregate) : Json :=
  obj [("device_count", nat a.devices), ("mean_utilization_pct", exact a.meanUtilization),
    ("mean_temperature_c", exact a.meanTemperature), ("total_memory_bytes", nat a.total),
    ("used_memory_bytes", nat a.used), ("available_memory_bytes", nat a.free),
    ("total_power_watts", exact a.power),
    ("hottest", orNull (fun h => obj [("device_id", str h.deviceId),
      ("temperature_c", exact h.temperature)]) a.hottest)]

def statistic (s : Statistic) : Json :=
  obj [("avg", exact s.mean), ("peak", exact s.peak), ("current", exact s.current)]

def summary (s : Summary) : Json :=
  obj [("device_id", str s.deviceId), ("samples", nat s.samples),
    ("memory_used", statistic s.used), ("utilization_pct", statistic s.utilization),
    ("temperature_c", statistic s.temperature), ("power_watts", statistic s.power),
    ("high_memory_alerts", nat s.memoryAlerts), ("high_temperature_alerts", nat s.heatAlerts),
    ("throttle_suspected", bool s.throttling)]

def change (c : Telemetry.Change) : Json :=
  obj [("metrics", sample c.sample), ("first_sample", bool c.isFirst),
    ("utilization_delta", exact c.utilizationDelta),
    ("temperature_delta", exact c.temperatureDelta),
    ("memory_fraction_delta", exact c.memoryDelta)]

def score (s : Score Number.Extended) : Json :=
  let number (x : Number.Extended) : Json := exact x.toFloat
  obj [("device_id", str s.deviceId), ("available_bytes", nat s.free), ("value", number s.value),
    ("memory", number s.memory), ("compute", number s.compute),
    ("thermal_penalty", number s.penalty), ("mode_factor", number s.modeFactor)]

def pairJson (a b : Json) : Json := .array [a, b]

def assignmentFields (a : Placement.Assignment) : List (String × Json) :=
  [("placements", arr (fun e => pairJson (nat e.1) (str e.2)) a.placements.entries),
   ("bytes_per_device", arr (fun e => pairJson (str e.1) (nat e.2)) a.bytes.entries),
   ("method", str a.method.name), ("heterogeneous", bool a.heterogeneous), ("len", nat a.size),
   ("is_empty", bool (a.size = 0))]

def thermalState (s : Thermal.State) : Json :=
  obj [("device_id", str s.deviceId), ("current", exact s.current),
    ("predicted", approximate s.predicted), ("horizon_secs", exact s.horizon),
    ("margin", approximate s.margin), ("mode", str s.mode.name), ("ts", time s.updatedAt)]

def transition (t : Thermal.Transition) : Json :=
  obj [("device_id", str t.deviceId), ("from", str t.source.name), ("to", str t.target.name),
    ("temp", exact t.temperature), ("predicted", approximate t.predicted),
    ("ts", time t.changedAt)]

def distribution (d : Table DeviceId (List Int)) : Json :=
  arr (fun e => pairJson (str e.1) (arr Json.ofInt e.2)) d.entries

def events {ε : Type} (f : ε → Json) (r : Received ε) (isClosed : Bool) : Json :=
  .array ((if r.lost = 0 then [] else [obj [("lagged", nat r.lost)]]) ++ r.events.map f ++
    (if isClosed then [str "closed"] else []))

def poolDevice (d : Placement.PoolDevice) : Json :=
  obj [("id", str d.id), ("total", nat d.total), ("available", nat d.free),
    ("util", exact d.utilization), ("precisions", arr precision d.precisions),
    ("group", orNull str d.group), ("score", exact d.score.toFloat)]

def registered (d : RegisteredDevice) : Json :=
  obj [("device", device d.device), ("endpoint", orNull str d.endpoint),
    ("available", bool d.isAvailable), ("last_error", orNull str d.lastError)]

end GpuCluster.Report
