import Mathlib
import GpuCluster.Proofs.Sampling.Visits

/-!
# The course of a sampler

Devices are spawned and stopped, time passes, and the sampler shuts down, in any order. A loop that has
begun ends only when it is stopped, when the sampler shuts down, or when its own sample meets a closed
inlet; from then on its device is left alone until it is spawned again.
-/

namespace GpuCluster.Sampling

variable {σ : Type} {w : Surroundings σ} {s : Sampler} {id : DeviceId}

namespace Sampler

/-! ## Tasks that come and go -/

theorem progress?_eq_none_iff : s.progress? id = none ↔ id ∉ s.tasks := by
  rw [progress?, Option.map_eq_none_iff, Table.get?_eq_none_iff]

theorem spawn_eq_true_iff :
    (s.spawn id).2 = true ↔ s.isShutDown = false ∧ s.progress? id = none := by
  rw [spawn, progress?_eq_none_iff]
  split
  · rename_i h
    refine iff_of_false Bool.false_ne_true ?_
    rintro ⟨hopen, hnone⟩
    rw [hopen, Bool.false_or] at h
    exact hnone h
  · rename_i h
    rw [Bool.or_eq_true, not_or, Bool.not_eq_true] at h
    exact iff_of_true rfl h

theorem spawn_of_eq_false (h : (s.spawn id).2 = false) : (s.spawn id).1 = s := by
  rw [spawn] at h ⊢
  split
  · rfl
  · rename_i hneg
    rw [if_neg hneg] at h
    cases h

theorem progress?_spawn (s : Sampler) (id id' : DeviceId) :
    (s.spawn id).1.progress? id' =
      if (s.spawn id).2 = true ∧ id = id' then some .fresh else s.progress? id' := by
  rw [spawn]
  split
  · simp
  · rw [progress?, Table.get?_insert]
    simp only [true_and]
    split <;> rfl

theorem progress?_stop (s : Sampler) (id id' : DeviceId) :
    (s.stop id).1.progress? id' = if id = id' then none else s.progress? id' := by
  rw [stop, progress?, Table.get?_erase]
  split <;> rfl

theorem progress?_spawn_of_ne_none (h : s.progress? id ≠ none) (id' : DeviceId) :
    (s.spawn id').1.progress? id = s.progress? id := by
  rw [progress?_spawn, if_neg]
  rintro ⟨hspawned, rfl⟩
  exact h (spawn_eq_true_iff.mp hspawned).2

theorem progress?_stop_of_ne {id' : DeviceId} (h : id' ≠ id) :
    (s.stop id').1.progress? id = s.progress? id := by
  rw [progress?_stop, if_neg h]

theorem mem_running_iff_progress? :
    id ∈ s.running ↔ ∃ progress, s.progress? id = some progress ∧ progress ≠ .ended := by
  rw [running, Table.mem_keys_iff, Table.mem_iff_get?]
  simp only [Table.get?_filter_eq_some_iff, Task.isActive, bne_iff_ne]
  constructor
  · rintro ⟨task, hget, hactive⟩
    exact ⟨task.progress, Option.map_eq_some_iff.mpr ⟨task, hget, rfl⟩, hactive⟩
  · rintro ⟨progress, hprogress, hactive⟩
    obtain ⟨task, hget, rfl⟩ := Option.map_eq_some_iff.mp hprogress
    exact ⟨task, hget, hactive⟩

theorem not_mem_running_iff :
    id ∉ s.running ↔ s.progress? id = none ∨ s.progress? id = some .ended := by
  rw [mem_running_iff_progress?]
  cases s.progress? id with
  | none => simp
  | some progress => simp

theorem now_spawn (s : Sampler) (id : DeviceId) : (s.spawn id).1.now = s.now := by
  rw [spawn]
  split <;> rfl

theorem Timely.spawn (h : s.Timely) (id : DeviceId) : (s.spawn id).1.Timely := by
  intro id' due hdue
  rw [progress?_spawn] at hdue
  rw [intervalMs_spawn, now_spawn]
  split at hdue
  · cases hdue
  · exact h id' due hdue

theorem Timely.stop (h : s.Timely) (id : DeviceId) : (s.stop id).1.Timely := by
  intro id' due hdue
  rw [progress?_stop] at hdue
  split at hdue
  · cases hdue
  · exact h id' due hdue

end Sampler

/-! ## Courses -/

/-- What is done with a sampler. -/
inductive Action where
  | spawn (id : DeviceId)
  | stop (id : DeviceId)
  | advance (ms : Nat)
  | shutDown
  deriving DecidableEq

/-- A sampler in its surroundings, with the visits so far. -/
structure Course (σ : Type) where
  sampler : Sampler
  state : σ
  log : List Visit

namespace Course

def start (interval : Nat) (state : σ) : Course σ := ⟨.start interval, state, []⟩

/-- The visits of one action. -/
def visitsIn (w : Surroundings σ) (c : Course σ) : Action → List Visit
  | .advance ms => c.sampler.visitsDuring w ms c.state
  | _ => []

def perform (w : Surroundings σ) (c : Course σ) (action : Action) : Course σ :=
  let log := c.log ++ c.visitsIn w action
  match action with
  | .spawn id => ⟨(c.sampler.spawn id).1, c.state, log⟩
  | .stop id => ⟨(c.sampler.stop id).1, c.state, log⟩
  | .advance ms =>
    let (sampler, state) := c.sampler.advance w ms c.state
    ⟨sampler, state, log⟩
  | .shutDown => ⟨c.sampler.shutDown, c.state, log⟩

def run (w : Surroundings σ) (c : Course σ) (actions : List Action) : Course σ :=
  actions.foldl (perform w) c

variable {c : Course σ} {action : Action} {actions : List Action}

theorem run_append (w : Surroundings σ) (c : Course σ) (actions actions' : List Action) :
    c.run w (actions ++ actions') = (c.run w actions).run w actions' :=
  List.foldl_append

theorem run_of_eq_append {before later : List Action} (h : actions = before ++ action :: later)
    (w : Surroundings σ) (c : Course σ) :
    c.run w actions = (c.run w before).run w (action :: later) := by
  rw [h, run_append]

theorem log_perform (w : Surroundings σ) (c : Course σ) (action : Action) :
    (c.perform w action).log = c.log ++ c.visitsIn w action := by
  cases action <;> rfl

theorem visitsOf_log_perform (w : Surroundings σ) (c : Course σ) (action : Action) (id : DeviceId) :
    visitsOf id (c.perform w action).log =
      visitsOf id c.log ++ visitsOf id (c.visitsIn w action) := by
  rw [log_perform, visitsOf_append]

theorem intervalMs_perform (w : Surroundings σ) (c : Course σ) (action : Action) :
    (c.perform w action).sampler.intervalMs = c.sampler.intervalMs := by
  cases action with
  | spawn id => exact Sampler.intervalMs_spawn c.sampler id
  | advance ms => exact Sampler.intervalMs_advance w c.sampler ms c.state
  | _ => rfl

/-- What every action keeps is kept by a whole run. -/
theorem run_invariant {P : Course σ → Prop} (hc : P c)
    (hperform : ∀ c action, P c → P (c.perform w action)) (actions : List Action) :
    P (c.run w actions) := by
  induction actions generalizing c with
  | nil => exact hc
  | cons action rest ih => exact ih (hperform c action hc)

theorem intervalMs_run (w : Surroundings σ) (c : Course σ) (actions : List Action) :
    (c.run w actions).sampler.intervalMs = c.sampler.intervalMs :=
  run_invariant (P := fun c' => c'.sampler.intervalMs = c.sampler.intervalMs) rfl
    (fun c' action h => (c'.intervalMs_perform w action).trans h) actions

theorem isShutDown_perform (w : Surroundings σ) (c : Course σ) (action : Action) :
    (c.perform w action).sampler.isShutDown = true ↔
      c.sampler.isShutDown = true ∨ action = .shutDown := by
  cases action with
  | spawn id =>
    rw [perform, Sampler.isShutDown_spawn]
    simp
  | stop id => simp [perform, Sampler.stop]
  | advance ms =>
    rw [perform, Sampler.isShutDown_advance]
    simp
  | shutDown => simp [perform, Sampler.shutDown]

theorem isShutDown_run (w : Surroundings σ) (c : Course σ) (actions : List Action) :
    (c.run w actions).sampler.isShutDown = true ↔
      c.sampler.isShutDown = true ∨ .shutDown ∈ actions := by
  induction actions generalizing c with
  | nil => simp [run]
  | cons action rest ih =>
    rw [List.mem_cons, ← or_assoc, eq_comm (a := Action.shutDown), ← c.isShutDown_perform w action]
    exact ih (c.perform w action)

theorem timely_start (interval : Nat) (state : σ) : (start interval state).sampler.Timely := by
  rintro id due ⟨⟩

theorem timely_perform (hc : c.sampler.Timely) (w : Surroundings σ) (action : Action) :
    (c.perform w action).sampler.Timely := by
  cases action with
  | spawn id => exact hc.spawn id
  | stop id => exact hc.stop id
  | advance ms => exact hc.advance w ms c.state
  | shutDown => rintro id due ⟨⟩

theorem timely_run (hc : c.sampler.Timely) (w : Surroundings σ) (actions : List Action) :
    (c.run w actions).sampler.Timely :=
  run_invariant (P := fun c => c.sampler.Timely) hc (fun _ action h => timely_perform h w action)
    actions

/-! ## The end of a loop -/

theorem idle_perform (hc : c.sampler.Timely) (hidle : id ∉ c.sampler.running)
    (haction : c.sampler.isShutDown = true ∨ action ≠ .spawn id) (w : Surroundings σ) :
    id ∉ (c.perform w action).sampler.running ∧ visitsOf id (c.visitsIn w action) = [] := by
  rw [Sampler.not_mem_running_iff] at hidle ⊢
  cases action with
  | spawn id' =>
    refine ⟨?_, rfl⟩
    rw [perform, Sampler.progress?_spawn, if_neg]
    · exact hidle
    · rintro ⟨hspawned, rfl⟩
      obtain hdown | hne := haction
      · cases hdown.symm.trans (Sampler.spawn_eq_true_iff.mp hspawned).1
      · exact hne rfl
  | stop id' =>
    refine ⟨?_, rfl⟩
    rw [perform, Sampler.progress?_stop]
    split
    · exact Or.inl rfl
    · exact hidle
  | advance ms =>
    have hvisits := Sampler.punctual_advance hc w ms c.state id
    obtain hnone | hended := hidle
    · rw [hnone] at hvisits
      obtain ⟨hnil, hfinal⟩ := hvisits.eq_of_not_waiting (by rintro due ⟨⟩)
      exact ⟨Or.inl hfinal, hnil⟩
    · rw [hended] at hvisits
      obtain ⟨hnil, hfinal⟩ := hvisits.eq_of_ended
      exact ⟨Or.inr hfinal, hnil⟩
  | shutDown => exact ⟨Or.inl rfl, rfl⟩

theorem idle_run (hc : c.sampler.Timely) (hidle : id ∉ c.sampler.running)
    (hactions : c.sampler.isShutDown = true ∨ .spawn id ∉ actions) (w : Surroundings σ) :
    id ∉ (c.run w actions).sampler.running ∧
      visitsOf id (c.run w actions).log = visitsOf id c.log := by
  induction actions generalizing c with
  | nil => exact ⟨hidle, rfl⟩
  | cons action rest ih =>
    rw [List.mem_cons, not_or] at hactions
    obtain ⟨hidle', hnil⟩ :=
      idle_perform hc hidle (hactions.imp_right fun h => Ne.symm h.1) w
    obtain ⟨hidle'', hlog⟩ := ih (timely_perform hc w action) hidle'
      (hactions.imp (fun h => (c.isShutDown_perform w action).mpr (Or.inl h)) fun h => h.2)
    refine ⟨hidle'', hlog.trans ?_⟩
    rw [visitsOf_log_perform, hnil, List.append_nil]

/-- A device without a task has none until it is spawned. -/
theorem absent_perform (hc : c.sampler.Timely) (habsent : c.sampler.progress? id = none)
    (haction : action ≠ .spawn id) (w : Surroundings σ) :
    (c.perform w action).sampler.progress? id = none := by
  cases action with
  | spawn id' =>
    rw [perform, Sampler.progress?_spawn, if_neg]
    · exact habsent
    · rintro ⟨-, rfl⟩
      exact haction rfl
  | stop id' =>
    rw [perform, Sampler.progress?_stop, habsent, ite_self]
  | advance ms =>
    refine (Sampler.punctual_advance hc w ms c.state id).eq_none_iff.mpr ?_
    rw [habsent, Option.map_none]
  | shutDown => rfl

theorem absent_run (hc : c.sampler.Timely) (habsent : c.sampler.progress? id = none)
    (hactions : .spawn id ∉ actions) (w : Surroundings σ) :
    (c.run w actions).sampler.progress? id = none := by
  induction actions generalizing c with
  | nil => exact habsent
  | cons action rest ih =>
    rw [List.mem_cons, not_or] at hactions
    exact ih (timely_perform hc w action) (absent_perform hc habsent (Ne.symm hactions.1) w) hactions.2

/-- A device without a task is accepted, unless the sampler has shut down. -/
theorem spawn_run_eq_true (hopen : c.sampler.isShutDown = false) (hdown : .shutDown ∉ actions)
    {w : Surroundings σ} (habsent : (c.run w actions).sampler.progress? id = none) :
    ((c.run w actions).sampler.spawn id).2 = true := by
  refine Sampler.spawn_eq_true_iff.mpr ⟨?_, habsent⟩
  rw [← Bool.not_eq_true, isShutDown_run, hopen]
  exact not_or.mpr ⟨Bool.false_ne_true, hdown⟩

/-- A device that is stopped is left alone until it is spawned again. -/
theorem stopped_run (hc : c.sampler.Timely) (hactions : .spawn id ∉ actions) (w : Surroundings σ) :
    (c.run w (.stop id :: actions)).sampler.progress? id = none ∧
      visitsOf id (c.run w (.stop id :: actions)).log = visitsOf id c.log := by
  have habsent : (c.perform w (.stop id)).sampler.progress? id = none :=
    (Sampler.progress?_stop c.sampler id id).trans (if_pos rfl)
  have hc' := timely_perform hc w (.stop id)
  have hidle : id ∉ (c.perform w (.stop id)).sampler.running :=
    Sampler.not_mem_running_iff.mpr (Or.inl habsent)
  refine ⟨absent_run hc' habsent hactions w, (idle_run hc' hidle (Or.inr hactions) w).2.trans ?_⟩
  exact congrArg (visitsOf id) (List.append_nil _)

/-- From the shutdown on, all devices are left alone. -/
theorem shutDown_run (hc : c.sampler.Timely) (w : Surroundings σ) (actions : List Action)
    (id : DeviceId) :
    id ∉ (c.run w (.shutDown :: actions)).sampler.running ∧
      visitsOf id (c.run w (.shutDown :: actions)).log = visitsOf id c.log := by
  have hidle : id ∉ (c.perform w .shutDown).sampler.running :=
    Sampler.not_mem_running_iff.mpr (Or.inl rfl)
  obtain ⟨hidle', hlog⟩ := idle_run (timely_perform hc w .shutDown) hidle (Or.inl rfl) w
  exact ⟨hidle', hlog.trans (congrArg (visitsOf id) (List.append_nil _))⟩

/-- The last visit of an action finds the inlet closed. -/
def Closes (w : Surroundings σ) (c : Course σ) (id : DeviceId) (action : Action) : Prop :=
  ∃ v, (visitsOf id (c.visitsIn w action)).getLast? = some v ∧ v.isLast = true

/--
A loop ends when it is stopped, when the sampler shuts down and when its own sample meets a closed
inlet. Without an interval to keep it ends before it begins.
-/
theorem ends_cases (hc : c.sampler.Timely) (hrunning : id ∈ c.sampler.running)
    (hended : id ∉ (c.perform w action).sampler.running) :
    action = .stop id ∨ action = .shutDown ∨ c.Closes w id action ∨
      (c.sampler.intervalMs = 0 ∧ c.sampler.progress? id = some .fresh ∧
        ∃ ms, action = .advance ms) := by
  obtain ⟨progress, hprogress, hactive⟩ := Sampler.mem_running_iff_progress?.mp hrunning
  have hgone : ∀ p, (c.perform w action).sampler.progress? id = some p → p = .ended := by
    intro p hp
    by_contra hne
    exact hended (Sampler.mem_running_iff_progress?.mpr ⟨p, hp, hne⟩)
  cases action with
  | spawn id' =>
    have hsome : c.sampler.progress? id ≠ none := hprogress ▸ Option.some_ne_none progress
    have hsame := Sampler.progress?_spawn_of_ne_none hsome id'
    exact absurd (hgone progress (hsame.trans hprogress)) hactive
  | stop id' =>
    obtain rfl | hid := eq_or_ne id' id
    · exact Or.inl rfl
    · have hsame := Sampler.progress?_stop_of_ne (s := c.sampler) hid
      exact absurd (hgone progress (hsame.trans hprogress)) hactive
  | shutDown => exact Or.inr (Or.inl rfl)
  | advance ms =>
    refine Or.inr (Or.inr ?_)
    have hvisits := Sampler.punctual_advance hc w ms c.state id
    rw [hprogress, Option.map_some] at hvisits
    have hcloses : ∀ due, progress.woken c.sampler.intervalMs c.sampler.now = .waiting due →
        c.Closes w id (.advance ms) := by
      intro due hdue
      rw [hdue] at hvisits
      obtain ⟨due', hwaiting⟩ | ⟨-, hlast⟩ := hvisits.final_cases
      · cases hgone _ hwaiting
      · exact hlast
    cases progress with
    | ended => exact absurd rfl hactive
    | waiting due => exact Or.inl (hcloses due rfl)
    | fresh =>
      rw [Progress.woken] at hcloses
      split at hcloses
      · rename_i hinterval
        exact Or.inr ⟨hinterval, hprogress, ms, rfl⟩
      · exact Or.inl (hcloses _ rfl)

end Course

end GpuCluster.Sampling
