import Mathlib
import GpuCluster.Proofs.Sampling.Course

/-!
# When a device can be sampled again

A device is accepted for sampling when it has no task. A task is kept from the time at which its loop
runs until it is stopped or the sampler shuts down, so that a device whose loop has ended by itself is
neither sampled nor accepted.
-/

namespace GpuCluster.Sampling.Course

variable {σ : Type} {w : Surroundings σ} {c : Course σ} {id : DeviceId} {action : Action}
  {actions : List Action}

/-- The device was sampled at some time, and neither it nor the sampler has been stopped since. -/
def Kept (w : Surroundings σ) (c : Course σ) (id : DeviceId) (actions : List Action) : Prop :=
  ∃ before later, actions = before ++ later ∧ id ∈ (c.run w before).sampler.running ∧
    .stop id ∉ later ∧ .shutDown ∉ later

/-- The loop of the device has ended by itself. -/
structure Lapsed (w : Surroundings σ) (c : Course σ) (id : DeviceId) (actions : List Action) :
    Prop where
  kept : Kept w c id actions
  not_running : id ∉ (c.run w actions).sampler.running

/-! ## The devices that have a task -/

theorem progress?_ne_none_of_running (h : id ∈ c.sampler.running) : c.sampler.progress? id ≠ none := by
  obtain ⟨progress, hprogress, -⟩ := Sampler.mem_running_iff_progress?.mp h
  rw [hprogress]
  exact Option.some_ne_none progress

/-- A task is kept until its device is stopped or the sampler shuts down. -/
theorem progress?_perform_ne_none (hc : c.sampler.Timely) (h : c.sampler.progress? id ≠ none)
    (hstop : action ≠ .stop id) (hdown : action ≠ .shutDown) (w : Surroundings σ) :
    (c.perform w action).sampler.progress? id ≠ none := by
  cases action with
  | spawn id' => exact (Sampler.progress?_spawn_of_ne_none h id').trans_ne h
  | stop id' => exact (Sampler.progress?_stop_of_ne (mt (congrArg Action.stop) hstop)).trans_ne h
  | advance ms =>
    refine mt (Sampler.punctual_advance hc w ms c.state id).eq_none_iff.mp ?_
    rwa [Option.map_eq_none_iff]
  | shutDown => exact absurd rfl hdown

/-- A task is new and runs, or has been kept. -/
theorem running_or_progress?_ne_none (hc : c.sampler.Timely)
    (h : (c.perform w action).sampler.progress? id ≠ none) :
    id ∈ (c.perform w action).sampler.running ∨
      (c.sampler.progress? id ≠ none ∧ action ≠ .stop id ∧ action ≠ .shutDown) := by
  cases action with
  | spawn id' =>
    have hspawn := Sampler.progress?_spawn c.sampler id' id
    split at hspawn
    · exact Or.inl (Sampler.mem_running_iff_progress?.mpr ⟨.fresh, hspawn, Progress.noConfusion⟩)
    · exact Or.inr ⟨hspawn.symm.trans_ne h, nofun, nofun⟩
  | stop id' =>
    have hstop := Sampler.progress?_stop c.sampler id' id
    split at hstop
    · exact absurd hstop h
    · rename_i hne
      exact Or.inr ⟨hstop.symm.trans_ne h, fun heq => hne (Action.stop.inj heq), nofun⟩
  | advance ms =>
    have hnone := (Sampler.punctual_advance hc w ms c.state id).eq_none_iff
    rw [Option.map_eq_none_iff] at hnone
    exact Or.inr ⟨mt hnone.mpr h, nofun, nofun⟩
  | shutDown => exact absurd rfl h

theorem kept_concat_iff :
    Kept w c id (actions ++ [action]) ↔
      id ∈ ((c.run w actions).perform w action).sampler.running ∨
        (Kept w c id actions ∧ action ≠ .stop id ∧ action ≠ .shutDown) := by
  have hrun : c.run w (actions ++ [action]) = (c.run w actions).perform w action :=
    c.run_append w actions [action]
  rw [← hrun]
  constructor
  · rintro ⟨before, later, heq, hrunning, hstop, hdown⟩
    obtain rfl | ⟨later, action', rfl⟩ := later.eq_nil_or_concat'
    · rw [List.append_nil] at heq
      exact Or.inl (heq ▸ hrunning)
    · rw [← List.append_assoc] at heq
      obtain ⟨rfl, hlast⟩ := List.append_inj' heq rfl
      cases hlast
      rw [List.mem_append, not_or, List.mem_singleton] at hstop hdown
      exact Or.inr ⟨⟨before, later, rfl, hrunning, hstop.1, hdown.1⟩, Ne.symm hstop.2,
        Ne.symm hdown.2⟩
  · rintro (hrunning | ⟨⟨before, later, rfl, hrunning, hstop, hdown⟩, hstop', hdown'⟩)
    · exact ⟨actions ++ [action], [], (List.append_nil _).symm, hrunning, List.not_mem_nil,
        List.not_mem_nil⟩
    · refine ⟨before, later ++ [action], List.append_assoc .., hrunning, ?_, ?_⟩
      · rw [List.mem_append, not_or, List.mem_singleton]
        exact ⟨hstop, Ne.symm hstop'⟩
      · rw [List.mem_append, not_or, List.mem_singleton]
        exact ⟨hdown, Ne.symm hdown'⟩

theorem progress?_run_ne_none_iff (w : Surroundings σ) (interval : Nat) (state : σ)
    (actions : List Action) (id : DeviceId) :
    ((start interval state).run w actions).sampler.progress? id ≠ none ↔
      Kept w (start interval state) id actions := by
  induction actions using List.reverseRecOn with
  | nil =>
    refine iff_of_false (not_not_intro rfl) ?_
    rintro ⟨before, later, heq, hrunning, -, -⟩
    obtain ⟨rfl, rfl⟩ := List.append_eq_nil_iff.mp heq.symm
    cases hrunning
  | append_singleton actions action ih =>
    have hc := timely_run (timely_start interval state) w actions
    rw [kept_concat_iff, ← ih, run_append]
    constructor
    · exact running_or_progress?_ne_none hc
    · rintro (hrunning | ⟨hsome, hstop, hdown⟩)
      · exact progress?_ne_none_of_running hrunning
      · exact progress?_perform_ne_none hc hsome hstop hdown w

theorem kept_iff (w : Surroundings σ) (c : Course σ) (id : DeviceId) (actions : List Action) :
    Kept w c id actions ↔ id ∈ (c.run w actions).sampler.running ∨ Lapsed w c id actions := by
  constructor
  · intro hkept
    exact or_iff_not_imp_left.mpr fun hidle => ⟨hkept, hidle⟩
  · rintro (hrunning | hlapsed)
    · exact ⟨actions, [], (List.append_nil _).symm, hrunning, List.not_mem_nil, List.not_mem_nil⟩
    · exact hlapsed.kept

/-! ## Loops that have ended by themselves -/

/-- The last visit to a device whose task has ended found the inlet closed. -/
def Explained (c : Course σ) : Prop :=
  ∀ id, c.sampler.progress? id = some .ended → c.sampler.intervalMs = 0 ∨
    ∃ v, (visitsOf id c.log).getLast? = some v ∧ v.isLast = true

theorem Explained.perform (h : c.Explained) (hc : c.sampler.Timely) (w : Surroundings σ)
    (action : Action) : (c.perform w action).Explained := by
  intro id hended
  rw [intervalMs_perform, visitsOf_log_perform]
  obtain hrunning | hidle := em (id ∈ c.sampler.running)
  · -- The loop was ended by this action.
    have hidle : id ∉ (c.perform w action).sampler.running :=
      Sampler.not_mem_running_iff.mpr (Or.inr hended)
    obtain rfl | rfl | ⟨v, hv, hlast⟩ | ⟨hinterval, -⟩ := ends_cases hc hrunning hidle
    · rw [Course.perform, Sampler.progress?_stop, if_pos rfl] at hended
      cases hended
    · cases hended
    · exact Or.inr ⟨v, by rw [List.getLast?_append, hv]; rfl, hlast⟩
    · exact Or.inl hinterval
  · have hnil : visitsOf id (c.visitsIn w action) = [] := by
      obtain rfl | hne := eq_or_ne action (.spawn id)
      · rfl
      · exact (idle_perform hc hidle (Or.inr hne) w).2
    have hsome : c.sampler.progress? id ≠ none := by
      have hafter : (c.perform w action).sampler.progress? id ≠ none :=
        hended ▸ Option.some_ne_none Progress.ended
      obtain hrunning | ⟨hsome, -⟩ := running_or_progress?_ne_none hc hafter
      · exact absurd hrunning (Sampler.not_mem_running_iff.mpr (Or.inr hended))
      · exact hsome
    rw [hnil, List.append_nil]
    exact h id ((Sampler.not_mem_running_iff.mp hidle).resolve_left hsome)

theorem explained_run (w : Surroundings σ) (interval : Nat) (state : σ) (actions : List Action) :
    ((start interval state).run w actions).Explained := by
  refine (run_invariant (P := fun c => c.sampler.Timely ∧ c.Explained)
    ⟨timely_start interval state, ?_⟩ ?_ actions).2
  · rintro id ⟨⟩
  · rintro c action ⟨hc, hexplained⟩
    exact ⟨timely_perform hc w action, hexplained.perform hc w action⟩

/-! ## Acceptance -/

theorem isShutDown_run_start (w : Surroundings σ) (interval : Nat) (state : σ)
    (actions : List Action) :
    ((start interval state).run w actions).sampler.isShutDown = true ↔ .shutDown ∈ actions := by
  rw [isShutDown_run]
  exact or_iff_right Bool.false_ne_true

theorem not_running_of_shutDown (w : Surroundings σ) (interval : Nat) (state : σ)
    (h : .shutDown ∈ actions) (id : DeviceId) :
    id ∉ ((start interval state).run w actions).sampler.running := by
  obtain ⟨before, later, rfl⟩ := List.append_of_mem h
  rw [run_append]
  exact (shutDown_run (timely_run (timely_start interval state) w before) w later id).1

theorem Kept.shutDown_not_mem {interval : Nat} {state : σ}
    (h : Kept w (start interval state) id actions) : .shutDown ∉ actions := by
  obtain ⟨before, later, rfl, hrunning, -, hdown⟩ := h
  rw [List.mem_append, not_or]
  exact ⟨fun hmem => not_running_of_shutDown w interval state hmem id hrunning, hdown⟩

theorem spawn_eq_true_iff_not_kept (w : Surroundings σ) (interval : Nat) (state : σ)
    (actions : List Action) (id : DeviceId) :
    (((start interval state).run w actions).sampler.spawn id).2 = true ↔
      .shutDown ∉ actions ∧ ¬Kept w (start interval state) id actions := by
  rw [Sampler.spawn_eq_true_iff, ← progress?_run_ne_none_iff, not_not, ← isShutDown_run_start w
    interval state actions, Bool.not_eq_true]

/-- A loop that was accepted visits its device as soon as time moves on. -/
theorem exists_first_visit (hc : c.sampler.Timely) (hspawn : (c.sampler.spawn id).2 = true)
    (hinterval : c.sampler.intervalMs ≠ 0) (w : Surroundings σ) (ms : Nat) :
    ∃ v, (visitsOf id ((c.perform w (.spawn id)).visitsIn w (.advance ms))).head? = some v ∧
      v.due = c.sampler.now := by
  have hvisits := Sampler.punctual_advance (hc.spawn id) w ms c.state id
  rw [Sampler.progress?_spawn, if_pos ⟨hspawn, rfl⟩, Sampler.intervalMs_spawn, Sampler.now_spawn,
    Option.map_some, Progress.woken, if_neg hinterval] at hvisits
  exact hvisits.exists_head (Nat.le_add_right _ ms)

/--
In every course, a device is accepted exactly when the sampler has not shut down, the device is not
sampled, and its loop has not ended by itself since it was last stopped. A device that is accepted is
sampled from then on; a refusal changes nothing. A loop that has ended by itself was told so by the
inlet at its last visit, or had no interval to keep; its device is accepted again once it is stopped.
-/
theorem spawn_accepted_iff (w : Surroundings σ) (interval : Nat) (state : σ) (actions : List Action)
    (id : DeviceId) :
    let c := (start interval state).run w actions
    let HasLapsed := Lapsed w (start interval state) id actions
    ((c.sampler.spawn id).2 = true ↔
      .shutDown ∉ actions ∧ id ∉ c.sampler.running ∧ ¬HasLapsed) ∧
    ((c.sampler.spawn id).2 = true → id ∈ (c.perform w (.spawn id)).sampler.running ∧
      (interval ≠ 0 → ∀ ms, ∃ v,
        (visitsOf id ((c.perform w (.spawn id)).visitsIn w (.advance ms))).head? = some v ∧
          v.due = c.sampler.now)) ∧
    ((c.sampler.spawn id).2 = false → (c.sampler.spawn id).1 = c.sampler) ∧
    (HasLapsed → (interval = 0 ∨ ∃ v, (visitsOf id c.log).getLast? = some v ∧ v.isLast = true) ∧
      ((c.perform w (.stop id)).sampler.spawn id).2 = true) := by
  intro c HasLapsed
  have hc : c.sampler.Timely := timely_run (timely_start interval state) w actions
  have hinterval : c.sampler.intervalMs = interval := intervalMs_run w _ actions
  refine ⟨?_, ?_, Sampler.spawn_of_eq_false, ?_⟩
  · rw [spawn_eq_true_iff_not_kept, kept_iff, not_or]
  · intro hspawn
    refine ⟨?_, fun hpositive => exists_first_visit hc hspawn (hinterval ▸ hpositive) w⟩
    refine Sampler.mem_running_iff_progress?.mpr ⟨.fresh, ?_, Progress.noConfusion⟩
    rw [perform, Sampler.progress?_spawn, if_pos ⟨hspawn, rfl⟩]
  · intro hlapsed
    have hended : c.sampler.progress? id = some .ended :=
      (Sampler.not_mem_running_iff.mp hlapsed.not_running).resolve_left
        ((progress?_run_ne_none_iff w interval state actions id).mpr hlapsed.kept)
    refine ⟨hinterval ▸ explained_run w interval state actions id hended, ?_⟩
    refine Sampler.spawn_eq_true_iff.mpr ⟨?_, ?_⟩
    · refine Bool.not_eq_true _ ▸ mt (isShutDown_run_start w interval state actions).mp ?_
      exact hlapsed.kept.shutDown_not_mem
    · rw [perform, Sampler.progress?_stop, if_pos rfl]

/-- A device is not sampled any more when the inlet has closed, and yet it is not accepted. -/
theorem lapsed_not_accepted :
    let closing : Surroundings Unit :=
      ⟨fun id state => (some ⟨id, .epoch, 0, 16, 0, 0, 0, 0⟩, state), fun _ state => (.closed, state)⟩
    let c := (start 10 ()).run closing [.spawn "gpu", .advance 5]
    c.sampler.isShutDown = false ∧ c.sampler.running = [] ∧ (c.sampler.spawn "gpu").2 = false := by
  decide +kernel

/-- The same device is accepted again after it has been stopped. -/
theorem spawn_accepted_iff_of_closing :
    let closing : Surroundings Unit :=
      ⟨fun id state => (some ⟨id, .epoch, 0, 16, 0, 0, 0, 0⟩, state), fun _ state => (.closed, state)⟩
    let c := (start 10 ()).run closing [.spawn "gpu", .advance 5]
    Lapsed closing (start 10 ()) "gpu" [.spawn "gpu", .advance 5] ∧
      ((c.perform closing (.stop "gpu")).sampler.spawn "gpu").2 = true := by
  intro closing c
  have hlapsed : Lapsed closing (start 10 ()) "gpu" [.spawn "gpu", .advance 5] :=
    ⟨⟨[.spawn "gpu"], [.advance 5], rfl, by decide, by decide, by decide⟩, by decide +kernel⟩
  obtain ⟨-, -, -, haccepted⟩ :=
    spawn_accepted_iff closing 10 () [.spawn "gpu", .advance 5] "gpu"
  exact ⟨hlapsed, (haccepted hlapsed).2⟩

end GpuCluster.Sampling.Course
