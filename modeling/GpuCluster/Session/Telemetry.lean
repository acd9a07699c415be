import GpuCluster.Session.State

/-!
# Samples and thermal state in a session

A sample of a device that has a lane goes first to the collector, which refuses faulty ones, and
then to the monitor.
-/

namespace GpuCluster.Session

/-- Takes in a sample of a device that has a lane; gives the change of mode, if the mode changed. -/
def observe (s : Session) (sample : Sample Float) : Reply (Option Thermal.Transition) :=
  if s.lanes.contains sample.deviceId then
    match s.collector.record sample with
    | .error cause => (s, .error (.ofTelemetry cause))
    | .ok (collector, _) =>
      match s.monitor.observe sample with
      | none => ({ s with collector }, .error (.unknownDevice sample.deviceId))
      | some (monitor, transition) => ({ s with collector, monitor }, .ok transition)
  else (s, .error (.unknownDevice sample.deviceId))

def record (s : Session) (sample : Sample Float) : Reply (Option Thermal.Transition) :=
  s.call "record_metrics" (s.observe sample)

/-- Takes in samples one after the other; each has a result of its own. -/
def observeAll (s : Session) :
    List (Sample Float) → Session × List (Except Error (Option Thermal.Transition))
  | [] => (s, [])
  | sample :: rest =>
    let (s, result) := s.observe sample
    let (s, results) := s.observeAll rest
    (s, result :: results)

def recordBatch (s : Session) (samples : List (Sample Float)) :
    Reply (List (Except Error (Option Thermal.Transition))) :=
  s.call "record_batch"
    (let (s, results) := s.observeAll samples
    (s, .ok results))

/-- The current sample of a device, nothing before its first one. -/
def currentSample (s : Session) (id : DeviceId) : Except Error (Option (Sample Float)) :=
  s.queryDevice "current_metrics" id fun _ => s.collector.current? id

def history (s : Session) (id : DeviceId) : Except Error (List (Sample Float)) :=
  s.queryDevice "metrics_history" id fun _ => s.collector.history id

def summary (s : Session) (id : DeviceId) : Except Error (Option Summary) :=
  s.queryDevice "metrics_summary" id fun _ => s.collector.summary? id

def aggregate (s : Session) : Except Error Aggregate :=
  s.query "aggregate_metrics" (.ok s.collector.aggregate)

def subscribeChanges (s : Session) : Except Error Subscription :=
  s.query "subscribe_metrics" (.ok ⟨s.era, s.collector.changes.subscribe⟩)

def subscribeTransitions (s : Session) : Except Error Subscription :=
  s.query "subscribe_thermal" (.ok ⟨s.era, s.monitor.transitions.subscribe⟩)

/-- The thermal state of a device, nothing before its first sample. -/
def thermalState (s : Session) (id : DeviceId) : Except Error (Option Thermal.State) :=
  s.queryDevice "thermal_state" id fun _ => s.monitor.state? id

def thermalStates (s : Session) : Except Error (List Thermal.State) :=
  s.query "thermal_states" (.ok s.monitor.states)

/-- Admits one unit of compute on a device. -/
def beginCompute (s : Session) (id : DeviceId) : Reply Thermal.Permit :=
  s.call "begin_compute"
    (match s.monitor.beginCompute id with
    | .error cause => (s, .error (.ofThermal cause))
    | .ok (monitor, permit) => ({ s with monitor }, .ok permit))

/-- Takes back a permit, also one from an earlier era. -/
def giveBack (s : Session) (permit : Thermal.Permit) : Session :=
  { s with monitor := s.monitor.giveBack permit }

end GpuCluster.Session
