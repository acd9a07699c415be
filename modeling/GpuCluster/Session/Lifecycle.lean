import GpuCluster.Session.Telemetry

/-!
# Starting, sampling and shutting down

A session starts when its configuration has no fault. A shutdown admits no more calls, waits for
pending placements as long as the grace period lasts, and then forgets everything. Time passes only
for the sampler and for a shutdown that waits.
-/

namespace GpuCluster.Session

open Sampling

/-- Starts a session that is not started; a session that is ready stays as it is. -/
def start (s : Session) : Reply Unit :=
  match s.phase with
  | .ready => (s, .ok ())
  | .shuttingDown => (s, .error .shutdownInProgress)
  | .uninitialized =>
    match s.config.fault? with
    | some fault => (s, .error (.ofConfigFault fault))
    | none => ({ s with phase := .ready }, .ok ())

/-- Starts tasks for devices in their order, and counts those that were started. -/
def spawnAll (sampler : Sampler) : List DeviceId → Sampler × Nat
  | [] => (sampler, 0)
  | id :: rest =>
    let (sampler, isNew) := sampler.spawn id
    let (sampler, count) := spawnAll sampler rest
    (sampler, count + if isNew then 1 else 0)

/-- Begins to sample all registered devices; gives their number. -/
def startSampling (s : Session) : Reply Nat :=
  s.call "start_sampling"
    (match s.sampler with
    | some _ => (s, .error .alreadySampling)
    | none =>
      let (sampler, count) := spawnAll (.start s.config.telemetry.intervalMs) s.registry.keys
      ({ s with sampler := some sampler }, .ok count))

/-- How a sampler sees the result of recording. -/
def verdict {α : Type} : Except Error α → Verdict
  | .ok _ => .accepted
  | .error e => if e.kind = .notInitialized then .closed else .rejected

variable {σ : Type}

/-- The surroundings of the sampler of a session that samples from a source. -/
def surroundings (pull : DeviceId → σ → Option (Sample Float) × σ) :
    Surroundings (Session × σ) where
  pull id state :=
    let (sample, source) := pull id state.2
    (sample, state.1, source)
  deliver sample state :=
    let (s, result) := state.1.record sample
    (verdict result, s, state.2)

/-- Lets `ms` milliseconds pass. -/
def advance (pull : DeviceId → σ → Option (Sample Float) × σ) (ms : Nat) (s : Session)
    (source : σ) : Session × σ :=
  let s := { s with graceLeft := s.graceLeft - ms }
  match s.sampler with
  | none => (s, source)
  | some sampler =>
    let (sampler, s, source) := sampler.advance (surroundings pull) ms (s, source)
    ({ s with sampler := some sampler }, source)

/-- Forgets everything but the announcements and the pending placements. -/
def forget (s : Session) : Session :=
  { s with
    phase := .uninitialized
    era := s.era + 1
    sampler := none
    collector := .start s.config.telemetry
    monitor := .start s.config.thermal s.config.telemetry.eventBuffer s.monitor.nextSerial
    registry := .empty
    lanes := .empty
    assignments := .empty
    graceLeft := 0
    past := s.past.insert s.era (s.announcements s.era) }

/-- Begins to shut down; it is done at once when there is nothing to wait for, or no time. -/
def beginShutdown (s : Session) : Session :=
  if s.phase = .ready then
    let grace := s.config.shutdown.gracePeriodMs
    if s.pending.entries.isEmpty || grace = 0 then s.forget
    else { s with phase := .shuttingDown, graceLeft := grace }
  else s

/-- Completes a shutdown, after the grace period if placements are still pending. -/
def completeShutdown (pull : DeviceId → σ → Option (Sample Float) × σ) (s : Session)
    (source : σ) : Session × σ :=
  if s.phase = .shuttingDown then
    if s.pending.entries.isEmpty then (s.forget, source)
    else
      let (s, source) := s.advance pull s.graceLeft source
      (s.forget, source)
  else (s, source)

/-- Shuts a session down, unless that is under way. -/
def shutdown (pull : DeviceId → σ → Option (Sample Float) × σ) (s : Session) (source : σ) :
    Session × σ :=
  if s.phase = .ready then s.beginShutdown.completeShutdown pull source else (s, source)

end GpuCluster.Session
