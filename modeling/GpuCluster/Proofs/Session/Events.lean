import Mathlib
import GpuCluster.Proofs.Session.Calls

/-!
# What happens in a session

A run of a session makes a record of what happens to assignments and samples: a session starts, a
placement is admitted and returns its assignment, an assignment is released, a device is removed and a
sample is accepted. All but the samples that a sampler brings are read off calls and their answers. The
session itself keeps no such record.
-/

namespace GpuCluster.Session

open Sampling

inductive Event where
  /-- A session that was not started begins to admit calls. -/
  | started
  /-- A placement takes its pool. -/
  | admitted (id : AssignmentId)
  /-- A placement returns its assignment. -/
  | placed (id : AssignmentId) (a : Placement.Assignment)
  | released (id : AssignmentId)
  | removed (id : DeviceId)
  /-- A sample of the device is accepted. -/
  | sampled (id : DeviceId)

/-- The event has happened, and nothing that ends it has happened since. -/
def Event.Lasts (e : Event) (ends : Event → Prop) (log : List Event) : Prop :=
  ∃ before after, log = before ++ e :: after ∧ ∀ e' ∈ after, ¬ends e'

namespace Event

variable {e : Event} {ends : Event → Prop} {log events : List Event}

theorem Lasts.mem (h : e.Lasts ends log) : e ∈ log := by
  obtain ⟨before, after, rfl, -⟩ := h
  exact List.mem_append_right before List.mem_cons_self

theorem lasts_append :
    e.Lasts ends (log ++ events) ↔
      e.Lasts ends events ∨ (e.Lasts ends log ∧ ∀ e' ∈ events, ¬ends e') := by
  constructor
  · rintro ⟨before, after, heq, hafter⟩
    rcases List.append_eq_append_iff.mp heq with ⟨rest, -, hevents⟩ | ⟨rest, hlog, hcons⟩
    · exact Or.inl ⟨rest, after, hevents, hafter⟩
    · cases rest with
      | nil => exact Or.inl ⟨[], after, hcons.symm, hafter⟩
      | cons first rest =>
        obtain ⟨rfl, rfl⟩ := List.cons.inj hcons
        refine Or.inr ⟨⟨before, rest, hlog, fun e' he' => ?_⟩, fun e' he' => ?_⟩
        · exact hafter e' (List.mem_append_left events he')
        · exact hafter e' (List.mem_append_right rest he')
  · rintro (⟨before, after, rfl, hafter⟩ | ⟨⟨before, after, rfl, hafter⟩, hevents⟩)
    · exact ⟨log ++ before, after, (List.append_assoc ..).symm, hafter⟩
    · refine ⟨before, after ++ events, by simp, fun e' he' => ?_⟩
      rcases List.mem_append.mp he' with he' | he'
      · exact hafter e' he'
      · exact hevents e' he'

theorem lasts_append_of_not_mem (h : e ∉ events) :
    e.Lasts ends (log ++ events) ↔ e.Lasts ends log ∧ ∀ e' ∈ events, ¬ends e' :=
  lasts_append.trans (or_iff_right fun hlasts => h hlasts.mem)

end Event

/-! ## Accepted samples -/

/-- The device of a sample, if the sample was accepted. -/
def accepted {α : Type} (sample : Sample Float) : Except Error α → List DeviceId
  | .ok _ => [sample.deviceId]
  | .error _ => []

def acceptedOf {α : Type} (m : Wire.Message) (result : Except Error α) : List DeviceId :=
  match m with
  | .heartbeat h => accepted h.sample result
  | .registration _ => []

/-- The devices of which a call that is answered has brought samples. -/
def sampledBy : {α : Type} → Call α → Except Error α → List DeviceId
  | _, .record sample, answer => accepted sample answer
  | _, .recordBatch samples, .ok results => (List.zipWith accepted samples results).flatten
  | _, .ingest m, answer => acceptedOf m answer
  | _, .ingestText text, answer =>
    match Wire.Envelope.decode text with
    | .ok envelope => acceptedOf envelope.message answer
    | .error _ => []
  | _, _, _ => []

section Sampling

variable {σ : Type} (pull : DeviceId → σ → Option (Sample Float) × σ)

/-- The device of a sample that a tick brings, if it is accepted. -/
def sampledAt (id : DeviceId) (state : Session × σ) : List DeviceId :=
  match (pull id state.2).1 with
  | some sample => accepted sample (state.1.record sample).2
  | none => []

/-- The devices of the accepted samples of a run of the sampler. -/
def sampledDuring (limit : Nat) : (count : Nat) → Sampler → Session × σ → List DeviceId
  | 0, _, _ => []
  | count + 1, sampler, state =>
    match sampler.next? limit with
    | none => []
    | some t =>
      let (next, state') := sampler.tick (surroundings pull) t state
      sampledAt pull t.deviceId state ++ sampledDuring limit count next state'

/-- The devices of the samples that are accepted while `ms` milliseconds pass. -/
def sampledWhile (ms : Nat) (s : Session) (source : σ) : List DeviceId :=
  match s.sampler with
  | none => []
  | some sampler =>
    sampledDuring pull (sampler.now + ms) (sampler.tickBound ms)
      { sampler with
        tasks := sampler.tasks.map fun _ task => task.wake sampler.intervalMs sampler.now }
      ({ s with graceLeft := s.graceLeft - ms }, source)

end Sampling

/-! ## Runs -/

/-- What a call that is answered has done. -/
def eventsOf (s : Session) : {α : Type} → Call α → Except Error α → List Event
  | _, .start, .ok _ => if s.phase = .uninitialized then [.started] else []
  | _, .removeDevice id, .ok _ => [.removed id]
  | _, .placeShards _, .ok (id, a) => [.admitted id, .placed id a]
  | _, .beginPlacement _, .ok id => [.admitted id]
  | _, .releaseAssignment id, .ok true => [.released id]
  | _, call, answer => (sampledBy call answer).map .sampled

/-- What a placement that is completed has done. -/
def completed (id : AssignmentId) : Except Error Placement.Assignment → List Event
  | .ok a => [.placed id a]
  | .error _ => []

/-- The sessions that are reached from a new one, with the events on the way, the first one first. -/
inductive Run : Session → List Event → Prop
  | new (config : Config) : Run (new config) []
  | perform {s : Session} {log : List Event} (h : Run s log) {α : Type} (call : Call α) :
      Run (s.perform call).1 (log ++ s.eventsOf call (s.perform call).2)
  | completePlacement {s : Session} {log : List Event} (h : Run s log) {id : AssignmentId}
      {reply : Reply Placement.Assignment} (hreply : s.completePlacement id = some reply) :
      Run reply.1 (log ++ completed id reply.2)
  | giveBack {s : Session} {log : List Event} (h : Run s log) (permit : Thermal.Permit) :
      Run (s.giveBack permit) log
  | advance {s : Session} {log : List Event} (h : Run s log) {σ : Type}
      (pull : DeviceId → σ → Option (Sample Float) × σ) (ms : Nat) (source : σ) :
      Run (s.advance pull ms source).1 (log ++ (sampledWhile pull ms s source).map .sampled)
  | beginShutdown {s : Session} {log : List Event} (h : Run s log) : Run s.beginShutdown log
  | completeShutdown {s : Session} {log : List Event} (h : Run s log) {σ : Type}
      (pull : DeviceId → σ → Option (Sample Float) × σ) (source : σ) :
      Run (s.completeShutdown pull source).1 log

variable {s : Session} {log : List Event}

theorem Run.placeShards (h : Run s log) {r : Placement.Request} {t : Session} {id : AssignmentId}
    {a : Placement.Assignment} (heq : s.placeShards r = (t, .ok (id, a))) :
    Run t (log ++ [.admitted id, .placed id a]) := by
  have hrun := h.perform (.placeShards r)
  rwa [show s.perform (.placeShards r) = _ from heq] at hrun

theorem Run.reachable (h : Run s log) : Reachable s := by
  induction h with
  | new config => exact .new config
  | perform _ call ih => exact ih.perform call
  | completePlacement _ hreply ih => exact ih.completePlacement hreply
  | giveBack _ permit ih => exact ih.giveBack permit
  | advance _ pull ms source ih => exact ih.advance pull ms source
  | beginShutdown _ ih => exact ih.beginShutdown
  | completeShutdown _ pull source ih => exact ih.completeShutdown pull source

theorem Reachable.exists_run (h : Reachable s) : ∃ log, Run s log := by
  induction h with
  | new config => exact ⟨_, .new config⟩
  | perform _ call ih => exact ih.elim fun _ h => ⟨_, h.perform call⟩
  | completePlacement _ hreply ih => exact ih.elim fun _ h => ⟨_, h.completePlacement hreply⟩
  | giveBack _ permit ih => exact ih.elim fun _ h => ⟨_, h.giveBack permit⟩
  | advance _ pull ms source ih => exact ih.elim fun _ h => ⟨_, h.advance pull ms source⟩
  | beginShutdown _ ih => exact ih.elim fun _ h => ⟨_, h.beginShutdown⟩
  | completeShutdown _ pull source ih => exact ih.elim fun _ h => ⟨_, h.completeShutdown pull source⟩

end GpuCluster.Session
