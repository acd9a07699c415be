import Mathlib
import GpuCluster.Proofs.Sampling.Tasks
import GpuCluster.Proofs.Session.Coherence

/-!
# An executor is kept under the device that it follows

A monitor makes an executor for the device under which it keeps it, and no operation moves an executor
or renames its device. What an executor announces is therefore about the device whose sample it was
given.
-/

namespace GpuCluster

namespace Thermal.Monitor

/-- Every executor is kept under the device that it follows. -/
def Owned (m : Monitor) : Prop :=
  ∀ id e, m.executors.get? id = some e → e.deviceId = id

variable {m : Monitor} {id : DeviceId}

theorem owned_start (policy : ThermalPolicy) (eventBuffer firstSerial : Nat) :
    (start policy eventBuffer firstSerial).Owned := by
  intro id e he
  cases he

theorem Owned.insert (h : m.Owned) {e : Executor} (he : e.deviceId = id) {m' : Monitor}
    (hexecutors : m'.executors = m.executors.insert id e) : m'.Owned := by
  intro id' e' he'
  rw [hexecutors, Table.get?_insert_eq_some_iff] at he'
  obtain ⟨rfl, rfl⟩ | ⟨-, hold⟩ := he'
  · exact he
  · exact h id' e' hold

theorem Owned.register (h : m.Owned) (id : DeviceId) (calibration : Calibration Float) :
    (m.register id calibration).Owned := by
  obtain heq | ⟨-, heq⟩ := m.register_cases id calibration
  · rwa [heq]
  · rw [heq]
    exact h.insert (e := .start m.policy id m.nextSerial calibration) rfl rfl

theorem Owned.remove (h : m.Owned) (id : DeviceId) : (m.remove id).Owned := by
  intro id' e he
  exact h id' e (Table.get?_erase_eq_some_iff.mp he).2

theorem Owned.observe (h : m.Owned) {sample : Sample Float} {m' : Monitor}
    {transition : Option Transition} (hobserve : m.observe sample = some (m', transition)) :
    m'.Owned := by
  obtain ⟨e, he, rfl⟩ := observe_eq_some hobserve
  exact h.insert (e := (e.observe (readingOf sample)).1) (h _ e he) rfl

theorem Owned.beginCompute (h : m.Owned) {m' : Monitor} {permit : Permit}
    (hbegin : m.beginCompute id = .ok (m', permit)) : m'.Owned := by
  obtain ⟨e, he, -, rfl⟩ := beginCompute_eq_ok hbegin
  exact h.insert (e := { e with inFlight := e.inFlight + 1 }) (h id e he) rfl

theorem Owned.giveBack (h : m.Owned) (permit : Permit) : (m.giveBack permit).Owned := by
  have hdevice : ∀ e : Executor, (e.giveBack permit).deviceId = e.deviceId := by
    intro e
    rw [Executor.giveBack]
    split <;> rfl
  intro id e he
  rw [Monitor.giveBack, Table.get?_modify] at he
  split at he
  · obtain ⟨before, hbefore, rfl⟩ := Option.map_eq_some_iff.mp he
    exact (hdevice before).trans (h id before hbefore)
  · exact h id e he

/-- The transition that a sample causes is about its device. -/
theorem deviceId_of_observe {e : Executor} {reading : Reading} {transition : Transition}
    (h : (e.observe reading).2 = some transition) : transition.deviceId = e.deviceId := by
  rw [Executor.observe] at h
  dsimp only at h
  split at h
  · cases h
  · rw [← Option.some.inj h]

end Thermal.Monitor

namespace Session

open Sampling

def Owned (s : Session) : Prop := s.monitor.Owned

variable {s t : Session} {σ : Type}

namespace Owned

theorem observe (h : Owned s) (sample : Sample Float) : Owned (s.observe sample).1 := by
  rw [Session.observe]
  split
  · split
    · exact h
    · split
      · exact h
      · rename_i monitor transition hobserve
        exact Thermal.Monitor.Owned.observe h hobserve
  · exact h

theorem observeAll (h : Owned s) (samples : List (Sample Float)) :
    Owned (s.observeAll samples).1 := by
  induction samples generalizing s with
  | nil => exact h
  | cons sample rest ih => exact ih (h.observe sample)

theorem announce (h : Owned s) (d : Device) (endpoint : Option String) :
    Owned (s.announce d endpoint).1 := by
  rw [Session.announce]
  split
  · exact h
  · split
    · exact Thermal.Monitor.Owned.register h d.id _
    · split
      · exact h
      · exact h

theorem applyHeartbeat (h : Owned s) (heartbeat : Wire.Heartbeat) :
    Owned (s.applyHeartbeat heartbeat).1 := by
  rw [Session.applyHeartbeat]
  split
  · exact h
  · refine observe ?_ heartbeat.sample
    exact h

theorem ingest (h : Owned s) (m : Wire.Message) : Owned (s.ingest m).1 := by
  refine of_call "ingest" h fun _ => ?_
  split
  · exact h
  · exact h.announce _ _
  · exact h.applyHeartbeat _

theorem start (h : Owned s) : Owned s.start.1 := by
  rw [Session.start]
  split
  · exact h
  · exact h
  · split <;> exact h

theorem removeDevice (h : Owned s) (id : DeviceId) : Owned (s.removeDevice id).1 := by
  refine of_call "remove_device" h fun _ => ?_
  split
  · exact Thermal.Monitor.Owned.remove h id
  · exact h

theorem startSampling (h : Owned s) : Owned s.startSampling.1 := by
  refine of_call "start_sampling" h fun _ => ?_
  split <;> exact h

theorem placeShards (h : Owned s) (r : Placement.Request) : Owned (s.placeShards r).1 := by
  refine of_call "place_shards" h fun _ => ?_
  split <;> exact h

theorem beginPlacement (h : Owned s) (r : Placement.Request) : Owned (s.beginPlacement r).1 := by
  refine of_call "place_shards" h fun _ => ?_
  split <;> exact h

theorem beginCompute (h : Owned s) (id : DeviceId) : Owned (s.beginCompute id).1 := by
  refine of_call "begin_compute" h fun _ => ?_
  split
  · exact h
  · rename_i monitor permit hbegin
    exact Thermal.Monitor.Owned.beginCompute h hbegin

theorem ingestText (h : Owned s) (text : String) : Owned (s.ingestText text).1 := by
  rw [Session.ingestText]
  split
  · exact h
  · exact h.ingest _

theorem completePlacement (h : Owned s) {id : AssignmentId}
    {reply : Reply Placement.Assignment} (hreply : s.completePlacement id = some reply) :
    Owned reply.1 := by
  obtain ⟨placement, -, rfl⟩ := Option.map_eq_some_iff.mp hreply
  dsimp only
  split <;> exact h

theorem advance (h : Owned s) (pull : DeviceId → σ → Option (Sample Float) × σ) (ms : Nat)
    (source : σ) : Owned (s.advance pull ms source).1 := by
  rw [Session.advance]
  split
  · exact h
  · rename_i sampler hsampler
    let P (_ : Sampler) (state : Session × σ) : Prop := Owned state.1
    refine Sampler.run_induction (P := P) ?_ h
    rintro sampler tick ⟨s, source⟩ h
    rcases hpull : pull tick.deviceId source with ⟨_ | sample, source'⟩
    · rw [Sampler.tick, sample_of_pull_none hpull]
      exact h
    · rw [Sampler.tick, sample_of_pull_some hpull]
      exact of_call "record_metrics" h fun _ => observe h sample

theorem forget (s : Session) : Owned s.forget := Thermal.Monitor.owned_start _ _ _

theorem perform (h : Owned s) {α : Type} (call : Call α) : Owned (s.perform call).1 := by
  cases call with
  | start => exact h.start
  | registerDevice d => exact of_call "register_device" h fun _ => h.announce d none
  | removeDevice id => exact h.removeDevice id
  | record sample => exact of_call "record_metrics" h fun _ => h.observe sample
  | recordBatch samples => exact of_call "record_batch" h fun _ => h.observeAll samples
  | startSampling => exact h.startSampling
  | placeShards r => exact h.placeShards r
  | beginPlacement r => exact h.beginPlacement r
  | releaseAssignment id => exact of_call "release_assignment" h fun _ => h
  | beginCompute id => exact h.beginCompute id
  | ingest m => exact h.ingest m
  | ingestText text => exact h.ingestText text
  -- The others are questions.
  | _ => exact h

end Owned

theorem Reachable.owned (h : Reachable s) : Owned s := by
  induction h with
  | new config => exact Thermal.Monitor.owned_start _ _ _
  | perform h call ih => exact ih.perform call
  | completePlacement h hreply ih => exact ih.completePlacement hreply
  | giveBack h permit ih => exact Thermal.Monitor.Owned.giveBack ih permit
  | advance h pull ms source ih => exact ih.advance pull ms source
  | @beginShutdown s h ih =>
    rw [Session.beginShutdown]
    split
    · dsimp only
      split
      · exact .forget s
      · exact ih
    · exact ih
  | @completeShutdown s h σ pull source ih =>
    rw [Session.completeShutdown]
    split
    · split
      · exact .forget s
      · exact .forget _
    · exact ih

end Session

end GpuCluster
