import Mathlib
import GpuCluster.Proofs.Table
import GpuCluster.Proofs.Thermal.Execution
import GpuCluster.Thermal.Monitor

/-!
# What the operations of a monitor do to its executors

Registration makes one executor; a sample and an admission replace the executor of one device by a later
stage of itself.
-/

namespace GpuCluster.Thermal.Monitor

variable {m m' : Monitor} {id : DeviceId}

theorem register_cases (m : Monitor) (id : DeviceId) (calibration : Calibration Float) :
    m.register id calibration = m ∨ id ∉ m.executors ∧ m.register id calibration = { m with
      executors := m.executors.insert id (.start m.policy id m.nextSerial calibration)
      nextSerial := m.nextSerial + 1 } := by
  rw [register]
  split
  · exact Or.inl rfl
  · rename_i htracks
    exact Or.inr ⟨htracks, rfl⟩

theorem observe_eq_some {sample : Sample Float} {transition : Option Transition}
    (h : m.observe sample = some (m', transition)) :
    ∃ e, m.executors.get? sample.deviceId = some e ∧ m' = { m with
      executors := m.executors.insert sample.deviceId (e.observe (readingOf sample)).1
      transitions := m.transitions.sendAll (e.observe (readingOf sample)).2.toList } := by
  obtain ⟨e, he, heq⟩ := Option.map_eq_some_iff.mp h
  exact ⟨e, he, (Prod.mk.inj heq).1.symm⟩

theorem beginCompute_eq_ok {permit : Permit} (h : m.beginCompute id = .ok (m', permit)) :
    ∃ e, m.executors.get? id = some e ∧ permit = ⟨e.deviceId, e.serial⟩ ∧ m' = { m with
      executors := m.executors.insert id { e with inFlight := e.inFlight + 1 } } := by
  rw [beginCompute] at h
  split at h
  · cases h
  · rename_i e he
    obtain ⟨-, hok⟩ | ⟨-, herror⟩ := e.beginCompute_cases
    · rw [hok] at h
      cases h
      exact ⟨e, he, rfl, rfl⟩
    · rw [herror] at h
      cases h

end GpuCluster.Thermal.Monitor
