import Mathlib
import GpuCluster.Proofs.Table
import GpuCluster.Sampling.Sampler

/-!
# The tasks of a sampler

Time that passes neither makes nor drops a task. A task that is active stays so as long as the samples
are not met by a closed inlet. In surroundings that answer alike the tasks do the same.
-/

namespace GpuCluster.Sampling

variable {σ : Type} {w : Surroundings σ} {s : Sampler} {id : DeviceId}

/-- Other surroundings answer alike in the states that a function carries over to them. -/
structure Surroundings.Carries {τ : Type} (w : Surroundings σ) (w' : Surroundings τ) (f : σ → τ) :
    Prop where
  pull : ∀ id state, w'.pull id (f state) = ((w.pull id state).1, f (w.pull id state).2)
  deliver : ∀ sample state,
    w'.deliver sample (f state) = ((w.deliver sample state).1, f (w.deliver sample state).2)

namespace Sampler

theorem mem_tasks_spawn (h : s.isShutDown = false) {id' : DeviceId} :
    id' ∈ (s.spawn id).1.tasks ↔ id' = id ∨ id' ∈ s.tasks := by
  rw [spawn, h, Bool.false_or]
  split
  · rename_i hmem
    exact (or_iff_right_of_imp fun heq => heq ▸ hmem).symm
  · exact Table.mem_insert

theorem isShutDown_spawn (s : Sampler) (id : DeviceId) :
    (s.spawn id).1.isShutDown = s.isShutDown := by
  rw [spawn]
  split <;> rfl

theorem intervalMs_spawn (s : Sampler) (id : DeviceId) :
    (s.spawn id).1.intervalMs = s.intervalMs := by
  rw [spawn]
  split <;> rfl

theorem mem_tasks_stop {id' : DeviceId} :
    id' ∈ (s.stop id).1.tasks ↔ id' ≠ id ∧ id' ∈ s.tasks :=
  Table.mem_erase

theorem run_induction {P : Sampler → σ → Prop} {limit : Nat}
    (htick : ∀ (s : Sampler) (t : Tick) (state : σ), P s state →
      P (s.tick w t state).1 (s.tick w t state).2)
    {count : Nat} {state : σ} (h : P s state) :
    P (run w limit count s state).1 (run w limit count s state).2 := by
  induction count generalizing s state with
  | zero => exact h
  | succ count ih =>
    rw [run]
    split
    · exact h
    · exact ih (htick _ _ _ h)

section Carries

variable {τ : Type} {w' : Surroundings τ} {f : σ → τ}

theorem sample_carried (h : w.Carries w' f) (id : DeviceId) (state : σ) :
    sample w' id (f state) = ((sample w id state).1, f (sample w id state).2) := by
  rw [sample, h.pull, sample]
  rcases w.pull id state with ⟨_ | sample, state'⟩
  · rfl
  · simp only [h.deliver]

theorem tick_carried (h : w.Carries w' f) (s : Sampler) (t : Tick) (state : σ) :
    s.tick w' t (f state) = ((s.tick w t state).1, f (s.tick w t state).2) := by
  simp only [tick, sample_carried h]

theorem run_carried (h : w.Carries w' f) (limit count : Nat) (s : Sampler) (state : σ) :
    run w' limit count s (f state) =
      ((run w limit count s state).1, f (run w limit count s state).2) := by
  induction count generalizing s state with
  | zero => rfl
  | succ count ih =>
    rw [run, run]
    split
    · rfl
    · simp only [tick_carried h, ih]

theorem advance_carried (h : w.Carries w' f) (s : Sampler) (ms : Nat) (state : σ) :
    s.advance w' ms (f state) = ((s.advance w ms state).1, f (s.advance w ms state).2) := by
  simp only [advance, run_carried h]

end Carries

/-- Every task is active. -/
def IsLively (s : Sampler) : Prop := ∀ id task, s.tasks.get? id = some task → task.isActive = true

theorem IsLively.start (intervalMs : Nat) : (start intervalMs).IsLively := by
  intro id task h
  cases h

theorem IsLively.spawn (h : s.IsLively) (id : DeviceId) : (s.spawn id).1.IsLively := by
  rw [Sampler.spawn]
  split
  · exact h
  · intro id' task htask
    rw [Table.get?_insert] at htask
    split at htask
    · rw [← Option.some.inj htask]
      rfl
    · exact h id' task htask

theorem IsLively.stop (h : s.IsLively) (id : DeviceId) : (s.stop id).1.IsLively := by
  intro id' task htask
  rw [Sampler.stop, Table.get?_erase] at htask
  split at htask
  · cases htask
  · exact h id' task htask

theorem IsLively.tick (h : s.IsLively) {t : Tick} {state : σ}
    (hopen : (sample w t.deviceId state).1 = false) : (s.tick w t state).1.IsLively := by
  intro id task htask
  simp only [Sampler.tick, hopen] at htask
  rw [Table.get?_modify] at htask
  split at htask
  · obtain ⟨before, -, rfl⟩ := Option.map_eq_some_iff.mp htask
    rfl
  · exact h id task htask

/-- Tasks that have not begun begin, and none ends by this when there is an interval to keep. -/
theorem IsLively.wake (h : s.IsLively) (hinterval : s.intervalMs ≠ 0) :
    ({ s with tasks := s.tasks.map fun _ t => t.wake s.intervalMs s.now } : Sampler).IsLively := by
  intro id task htask
  rw [Table.get?_map] at htask
  obtain ⟨before, hbefore, rfl⟩ := Option.map_eq_some_iff.mp htask
  rw [Task.wake, if_neg hinterval]
  split
  · exact h id before hbefore
  · rfl

theorem mem_running_iff (h : s.IsLively) : id ∈ s.running ↔ id ∈ s.tasks := by
  rw [running, Table.mem_keys_iff, Table.mem_iff_get?, Table.mem_iff_get?]
  simp only [Table.get?_eq_some_iff, Table.filter, List.mem_filter]
  constructor
  · rintro ⟨task, hmem, -⟩
    exact ⟨task, hmem⟩
  · rintro ⟨task, hmem⟩
    exact ⟨task, hmem, h id task (Table.get?_eq_some_iff.mpr hmem)⟩

end Sampler

end GpuCluster.Sampling
