import Mathlib
import GpuCluster.Proofs.Table
import GpuCluster.Proofs.Session.Calls
import GpuCluster.Proofs.Thermal.Operations

/-!
# A sample reaches the collector and the monitor

While the registry, the lanes, the collector and the monitor hold the same devices, a sample is either
refused and changes nothing, or taken in by the collector and by the monitor. What these two know of a
device then comes from the same latest sample.
-/

namespace GpuCluster.Session

open Sampling

/-- A slot and an executor have both seen nothing, or the same sample last. -/
inductive InStep (slot : Telemetry.Slot) (e : Thermal.Executor) : Prop
  | unseen (hcurrent : slot.current = none) (hhistory : slot.history.toList = [])
      (hstate : e.state = none)
  | seen (sample : Sample Float) (state : Thermal.State) (hcurrent : slot.current = some sample)
      (hlatest : slot.history.latest? = some sample) (hstate : e.state = some state)
      (htemperature : state.current = sample.temperature) (htime : state.updatedAt = sample.takenAt)

theorem InStep.record (slot : Telemetry.Slot) (e : Thermal.Executor) (t : ChangeThresholds)
    (sample : Sample Float) :
    InStep (slot.record t sample).1 (e.observe (Thermal.Monitor.readingOf sample)).1 := by
  refine .seen sample _ (slot.current_record t sample) ?_ rfl rfl rfl
  rw [Telemetry.Slot.history_record]
  exact Window.latest?_push _ _

theorem InStep.of_state_eq {slot : Telemetry.Slot} {e e' : Thermal.Executor} (h : InStep slot e)
    (he : e'.state = e.state) : InStep slot e' := by
  cases h with
  | unseen hcurrent hhistory hstate => exact .unseen hcurrent hhistory (he.trans hstate)
  | seen sample state hcurrent hlatest hstate htemperature htime =>
    exact .seen sample state hcurrent hlatest (he.trans hstate) htemperature htime

/-- A collector and a monitor are in step about every device that both of them know. -/
def AllInStep (slots : Table DeviceId Telemetry.Slot) (executors : Table DeviceId Thermal.Executor) :
    Prop :=
  ∀ id slot e, slots.get? id = some slot → executors.get? id = some e → InStep slot e

section Tables

variable {slots : Table DeviceId Telemetry.Slot} {executors : Table DeviceId Thermal.Executor}

theorem AllInStep.empty : AllInStep .empty executors := by
  intro id slot e hslot
  cases hslot

theorem AllInStep.insert (h : AllInStep slots executors) {slot : Telemetry.Slot}
    {e : Thermal.Executor} (hnew : InStep slot e) (id : DeviceId) :
    AllInStep (slots.insert id slot) (executors.insert id e) := by
  intro id' slot' e' hslot he
  rw [Table.get?_insert] at hslot he
  split at hslot
  · rename_i heq
    rw [if_pos heq] at he
    obtain rfl := Option.some.inj hslot
    obtain rfl := Option.some.inj he
    exact hnew
  · rename_i hne
    rw [if_neg hne] at he
    exact h id' slot' e' hslot he

theorem AllInStep.erase (h : AllInStep slots executors) (id : DeviceId) :
    AllInStep (slots.erase id) (executors.erase id) := by
  intro id' slot e hslot he
  rw [Table.get?_erase] at hslot he
  split at hslot
  · cases hslot
  · rename_i hne
    rw [if_neg hne] at he
    exact h id' slot e hslot he

theorem AllInStep.of_states_eq {executors' : Table DeviceId Thermal.Executor}
    (h : AllInStep slots executors)
    (hstates : ∀ id, (executors'.get? id).map (·.state) = (executors.get? id).map (·.state)) :
    AllInStep slots executors' := by
  intro id slot e hslot he
  have hstate := hstates id
  rw [he] at hstate
  obtain ⟨before, hbefore, heq⟩ := Option.map_eq_some_iff.mp hstate.symm
  exact (h id slot before hslot hbefore).of_state_eq heq.symm

end Tables

/-! ## Executors and permits -/

variable {s t : Session} {id : DeviceId} {σ : Type}

theorem state_of_beginCompute {m m' : Thermal.Monitor} {permit : Thermal.Permit}
    (h : m.beginCompute id = .ok (m', permit)) (id' : DeviceId) :
    (m'.executors.get? id').map (·.state) = (m.executors.get? id').map (·.state) := by
  obtain ⟨e, he, -, rfl⟩ := Thermal.Monitor.beginCompute_eq_ok h
  rw [Table.get?_insert]
  split
  · rename_i heq
    rw [← heq, he]
    rfl
  · rfl

theorem state_giveBack (m : Thermal.Monitor) (permit : Thermal.Permit) (id' : DeviceId) :
    ((m.giveBack permit).executors.get? id').map (·.state) =
      (m.executors.get? id').map (·.state) := by
  have hstate : ∀ e : Thermal.Executor, (e.giveBack permit).state = e.state := by
    intro e
    rw [Thermal.Executor.giveBack]
    split <;> rfl
  rw [Thermal.Monitor.giveBack, Table.get?_modify]
  split
  · rw [Option.map_map]
    exact congrArg (Option.map · _) (funext hstate)
  · rfl

/-! ## Alignment -/

/-- The registry, the lanes, the collector and the monitor agree. -/
structure Aligned (s : Session) : Prop where
  mem_lanes : ∀ id, id ∈ s.lanes ↔ id ∈ s.registry
  mem_slots : ∀ id, id ∈ s.collector.slots ↔ id ∈ s.registry
  mem_executors : ∀ id, id ∈ s.monitor.executors ↔ id ∈ s.registry
  inStep : AllInStep s.collector.slots s.monitor.executors

theorem Aligned.slots_get?_eq_none (h : Aligned s) (hid : s.registry.get? id = none) :
    s.collector.slots.get? id = none :=
  Table.get?_eq_none_iff.mpr fun hmem => Table.get?_eq_none_iff.mp hid ((h.mem_slots id).mp hmem)

theorem Aligned.current?_eq_none (h : Aligned s) (hid : s.registry.get? id = none) :
    s.collector.current? id = none := by
  rw [Telemetry.Collector.current?, h.slots_get?_eq_none hid]
  rfl

theorem Aligned.current?_enter (h : Aligned s) {d : Device} (hid : s.registry.get? d.id = none)
    (endpoint : Option String) (id : DeviceId) :
    (s.enter d endpoint).collector.current? id = s.collector.current? id := by
  have hnone := h.slots_get?_eq_none hid
  rw [Session.enter, Telemetry.Collector.register, Telemetry.Collector.isRegistered,
    Table.contains, hnone]
  simp only [Option.isSome_none, Bool.false_eq_true, if_false, Telemetry.Collector.current?,
    Table.get?_insert]
  split
  · rename_i heq
    rw [← heq, hnone]
    rfl
  · rfl

/-- Two sessions that differ in the collector and the monitor only. -/
def SameButObserved (s t : Session) : Prop :=
  ∃ collector monitor, t = { s with collector, monitor }

/-- A session that has taken in a sample with the given slot and executor of its device. -/
def observed (s : Session) (sample : Sample Float) (slot : Telemetry.Slot) (e : Thermal.Executor) :
    Session :=
  { s with
    collector := { s.collector with
      slots := s.collector.slots.insert sample.deviceId (slot.record s.collector.thresholds sample).1
      changes := s.collector.changes.sendAll
        (slot.record s.collector.thresholds sample).2.toList }
    monitor := { s.monitor with
      executors := s.monitor.executors.insert sample.deviceId
        (e.observe (Thermal.Monitor.readingOf sample)).1
      transitions := s.monitor.transitions.sendAll
        (e.observe (Thermal.Monitor.readingOf sample)).2.toList } }

theorem current?_observed (s : Session) (sample : Sample Float) (slot : Telemetry.Slot)
    (e : Thermal.Executor) (id : DeviceId) :
    (s.observed sample slot e).collector.current? id =
      if sample.deviceId = id then some sample else s.collector.current? id := by
  simp only [observed, Telemetry.Collector.current?, Table.get?_insert]
  split
  · exact slot.current_record _ sample
  · rfl

/-- A sample is taken in alike whatever the registry says. -/
theorem observe_of_registry (s : Session) (registry : Table DeviceId RegisteredDevice)
    (sample : Sample Float) :
    { s with registry }.observe sample =
      ({ (s.observe sample).1 with registry }, (s.observe sample).2) := by
  simp only [observe]
  split
  · split
    · rfl
    · split <;> rfl
  · rfl

/-- A sample is refused and changes nothing, or reaches both the collector and the monitor. -/
theorem Aligned.observe_cases (h : Aligned s) (sample : Sample Float) :
    (sample.deviceId ∉ s.registry ∧
      s.observe sample = (s, .error (.unknownDevice sample.deviceId))) ∨
    (sample.deviceId ∈ s.registry ∧ ∃ fault, sample.fault? = some fault ∧
      s.observe sample = (s, .error (.sample fault))) ∨
    (sample.deviceId ∈ s.registry ∧ sample.fault? = none ∧ ∃ slot e,
      s.collector.slots.get? sample.deviceId = some slot ∧
      s.monitor.executors.get? sample.deviceId = some e ∧
      s.observe sample = (s.observed sample slot e,
        .ok (e.observe (Thermal.Monitor.readingOf sample)).2)) := by
  -- A device that the collector knows is known to the monitor, so that there is no failure between
  -- the two.
  by_cases hid : sample.deviceId ∈ s.registry
  · right
    have hlane : s.lanes.contains sample.deviceId = true := (h.mem_lanes _).mpr hid
    obtain ⟨slot, hslot⟩ := Table.mem_iff_get?.mp ((h.mem_slots _).mpr hid)
    obtain ⟨e, he⟩ := Table.mem_iff_get?.mp ((h.mem_executors _).mpr hid)
    cases hfault : sample.fault? with
    | some fault =>
      refine Or.inl ⟨hid, fault, rfl, ?_⟩
      simp only [observe, hlane, Telemetry.Collector.record, hslot, hfault, if_true]
      rfl
    | none =>
      refine Or.inr ⟨hid, rfl, slot, e, hslot, he, ?_⟩
      simp only [observe, hlane, Telemetry.Collector.record, hslot, hfault, Thermal.Monitor.observe,
        he, if_true, Option.map_some]
      rfl
  · left
    have hlane : s.lanes.contains sample.deviceId = false :=
      Bool.eq_false_iff.mpr fun hc => hid ((h.mem_lanes _).mp hc)
    exact ⟨hid, by rw [observe, hlane]; rfl⟩

theorem Aligned.observed (h : Aligned s) {sample : Sample Float} {slot : Telemetry.Slot}
    {e : Thermal.Executor} (hid : sample.deviceId ∈ s.registry) :
    Aligned (s.observed sample slot e) where
  mem_lanes := h.mem_lanes
  mem_slots id :=
    (Table.mem_insert_of_mem ((h.mem_slots _).mpr hid) _).trans (h.mem_slots id)
  mem_executors id :=
    (Table.mem_insert_of_mem ((h.mem_executors _).mpr hid) _).trans (h.mem_executors id)
  inStep := h.inStep.insert (.record slot e _ sample) _

theorem Aligned.sameButObserved_observe (h : Aligned s) (sample : Sample Float) :
    SameButObserved s (s.observe sample).1 := by
  rcases h.observe_cases sample with ⟨-, heq⟩ | ⟨-, fault, -, heq⟩ | ⟨-, -, slot, e, -, -, heq⟩
  · exact ⟨s.collector, s.monitor, by rw [heq]⟩
  · exact ⟨s.collector, s.monitor, by rw [heq]⟩
  · exact ⟨_, _, congrArg Prod.fst heq⟩

theorem Aligned.observe (h : Aligned s) (sample : Sample Float) : Aligned (s.observe sample).1 := by
  rcases h.observe_cases sample with ⟨-, heq⟩ | ⟨-, fault, -, heq⟩ | ⟨hid, -, slot, e, -, -, heq⟩
  · rwa [heq]
  · rwa [heq]
  · rw [heq]
    exact h.observed hid

/-! ## Samples that a sampler asks for -/

section Sampling

variable {pull : DeviceId → σ → Option (Sample Float) × σ} {source source' : σ}

theorem sample_of_pull_none (h : pull id source = (none, source')) :
    Sampler.sample (surroundings pull) id (s, source) = (false, s, source') := by
  simp only [Sampler.sample, surroundings, h]

theorem sample_of_pull_some {sample : Sample Float} (h : pull id source = (some sample, source')) :
    Sampler.sample (surroundings pull) id (s, source) =
      (decide (verdict (s.record sample).2 = .closed), (s.record sample).1, source') := by
  simp only [Sampler.sample, surroundings, h]
  rfl

/-- A session that is ready turns no sample away for good. -/
theorem Aligned.verdict_observe (h : Aligned s) (sample : Sample Float) :
    verdict (s.observe sample).2 ≠ .closed := by
  rcases h.observe_cases sample with ⟨-, heq⟩ | ⟨-, fault, -, heq⟩ | ⟨-, -, slot, e, -, -, heq⟩
  · rw [heq]
    exact Verdict.noConfusion
  · rw [heq]
    exact Verdict.noConfusion
  · rw [heq]
    exact Verdict.noConfusion

theorem Aligned.sample (h : Aligned s) (pull : DeviceId → σ → Option (Sample Float) × σ)
    (id : DeviceId) (source : σ) :
    Aligned (Sampler.sample (surroundings pull) id (s, source)).2.1 ∧
    SameButObserved s (Sampler.sample (surroundings pull) id (s, source)).2.1 ∧
    (s.phase = .ready → (Sampler.sample (surroundings pull) id (s, source)).1 = false) := by
  rcases hpull : pull id source with ⟨_ | sample, source'⟩
  · rw [sample_of_pull_none hpull]
    exact ⟨h, ⟨_, _, rfl⟩, fun _ => rfl⟩
  · rw [sample_of_pull_some hpull]
    rcases call_cases s "record_metrics" (s.observe sample) with ⟨hphase, heq⟩ | ⟨hphase, heq⟩
    · rw [Session.record, heq]
      exact ⟨h, ⟨_, _, rfl⟩, fun hready => absurd hready hphase⟩
    · rw [Session.record, heq]
      exact ⟨h.observe sample, h.sameButObserved_observe sample,
        fun _ => decide_eq_false (h.verdict_observe sample)⟩

end Sampling

end GpuCluster.Session
