import Mathlib
import GpuCluster.Thermal.Executor

/-!
# Runs of an executor

Readings, requests for compute and permits that come back reach an executor in any order. Only a reading
can change its mode, and each change is reported with the mode before and the mode after, so that the
changes of a run form a chain. Compute is refused exactly while the device is paused, which it never is
before its first reading.
-/

namespace GpuCluster.Thermal.Executor

/-- What happens to an executor. -/
inductive Action where
  | observe (r : Reading)
  | beginCompute
  | giveBack (p : Permit)

def Action.reading? : Action → Option Reading
  | observe r => some r
  | _ => none

def perform (e : Executor) : Action → Executor × Option Transition
  | .observe r => e.observe r
  | .beginCompute =>
    match e.beginCompute with
    | .ok (e, _) => (e, none)
    | .error _ => (e, none)
  | .giveBack p => (e.giveBack p, none)

/-- Performs actions in their order; gives the changes of mode, the first one first. -/
def run (e : Executor) : List Action → Executor × List Transition
  | [] => (e, [])
  | action :: rest =>
    let (e, transition) := e.perform action
    let (e, transitions) := e.run rest
    (e, transition.toList ++ transitions)

def latestReading? (actions : List Action) : Option Reading :=
  (actions.filterMap Action.reading?).getLast?

/-- A new executor on any thermal model. -/
def onModel (policy : ThermalPolicy) (id : DeviceId) (serial : Nat) (model : Model Float) :
    Executor :=
  { start policy id serial model.calibration with model }

/-- Transitions lead from one mode to another, each starting where the one before it ends. -/
def Leads : Mode → List Transition → Mode → Prop
  | source, [], target => source = target
  | source, t :: rest, target => t.source = source ∧ t.target ≠ source ∧ Leads t.target rest target

variable {e : Executor} {policy : ThermalPolicy} {id : DeviceId}

/-! ## One action -/

theorem beginCompute_cases (e : Executor) :
    (e.mode ≠ .paused ∧
      e.beginCompute = .ok ({ e with inFlight := e.inFlight + 1 }, ⟨e.deviceId, e.serial⟩)) ∨
    (e.mode = .paused ∧ e.beginCompute =
      .error ⟨e.deviceId, (e.state.map (·.current)).getD e.thresholds.critical⟩) := by
  rw [beginCompute, Mode.acceptsWork]
  by_cases h : e.mode = .paused
  · exact Or.inr ⟨h, by simp [h]⟩
  · exact Or.inl ⟨h, by simp [h]⟩

/-- An action that is no reading changes nothing but the count of permits. -/
theorem perform_cases (e : Executor) (action : Action) :
    (∃ r, action = .observe r ∧ e.perform action = e.observe r) ∨
    (action.reading? = none ∧ ∃ inFlight, e.perform action = ({ e with inFlight }, none)) := by
  cases action with
  | observe r => exact Or.inl ⟨r, rfl, rfl⟩
  | beginCompute =>
    refine Or.inr ⟨rfl, ?_⟩
    rcases e.beginCompute_cases with ⟨-, h⟩ | ⟨-, h⟩
    · exact ⟨e.inFlight + 1, by rw [perform, h]⟩
    · exact ⟨e.inFlight, by rw [perform, h]⟩
  | giveBack p =>
    refine Or.inr ⟨rfl, ?_⟩
    by_cases h : p.issuer = e.serial
    · exact ⟨e.inFlight - 1, by rw [perform, giveBack, if_pos h]⟩
    · exact ⟨e.inFlight, by rw [perform, giveBack, if_neg h]⟩

/-- A reading reports the change of mode, if there is one. -/
theorem transition_observe (e : Executor) (r : Reading) :
    ((e.observe r).1.mode = e.mode ∧ (e.observe r).2 = none) ∨
    ((e.observe r).1.mode ≠ e.mode ∧ ∃ t, (e.observe r).2 = some t ∧ t.source = e.mode ∧
      t.target = (e.observe r).1.mode) := by
  by_cases h : (e.assess r).mode = e.mode
  · exact Or.inl ⟨h, if_pos h⟩
  · exact Or.inr ⟨h, _, if_neg h, rfl, rfl⟩

theorem leads_perform (e : Executor) (action : Action) :
    Leads e.mode (e.perform action).2.toList (e.perform action).1.mode := by
  rcases e.perform_cases action with ⟨r, -, h⟩ | ⟨-, inFlight, h⟩
  · rw [h]
    rcases e.transition_observe r with ⟨hmode, hnone⟩ | ⟨hne, t, hsome, hsource, htarget⟩
    · rw [hnone]
      exact hmode.symm
    · rw [hsome]
      exact ⟨hsource, htarget ▸ hne, htarget⟩
  · rw [h]
    rfl

theorem current_perform (e : Executor) (action : Action) :
    (e.perform action).1.state.map (·.current) =
      (action.reading?.map (·.temperature)).or (e.state.map (·.current)) := by
  rcases e.perform_cases action with ⟨r, rfl, h⟩ | ⟨hnone, inFlight, h⟩
  · rw [h]
    rfl
  · rw [h, hnone]
    rfl

theorem nextMode_ne_precisionReduced {t : Thresholds} (ht : t.reducesPrecision = false) {mode : Mode}
    (hmode : mode ≠ .precisionReduced) (current predicted : Float) :
    nextMode t mode current predicted ≠ .precisionReduced := by
  cases mode with
  | running =>
    simp only [nextMode, ht, Bool.false_eq_true, if_false]
    split_ifs <;> exact Mode.noConfusion
  | precisionReduced => exact absurd rfl hmode
  | paused =>
    simp only [nextMode]
    split_ifs <;> exact Mode.noConfusion

/-- A device that runs and is not too hot may be slowed down, but is not paused. -/
theorem nextMode_running_ne_paused {t : Thresholds} (ht : t.reducesPrecision = true) {current : Float}
    (hcool : ¬t.critical ≤ current) (predicted : Float) :
    nextMode t .running current predicted ≠ .paused := by
  simp only [nextMode, if_neg hcool, ht, if_true]
  split_ifs <;> exact Mode.noConfusion

theorem nextMode_paused_cases (t : Thresholds) (current predicted : Float) :
    nextMode t .paused current predicted = .paused ∨
      (current < t.resumeBelow ∧ nextMode t .paused current predicted = .running) := by
  simp only [nextMode]
  split_ifs with hcritical hcurrent
  · exact Or.inl rfl
  · exact Or.inr ⟨hcurrent, rfl⟩
  · exact Or.inl rfl

/-! ## Whole runs -/

theorem Leads.append {source middle target : Mode} {ts us : List Transition}
    (ht : Leads source ts middle) (hu : Leads middle us target) : Leads source (ts ++ us) target := by
  induction ts generalizing source with
  | nil =>
    obtain rfl : source = middle := ht
    exact hu
  | cons t ts ih => exact ⟨ht.1, ht.2.1, ih ht.2.2⟩

theorem leads_run (e : Executor) (actions : List Action) :
    Leads e.mode (e.run actions).2 (e.run actions).1.mode := by
  induction actions generalizing e with
  | nil => rfl
  | cons action rest ih => exact (e.leads_perform action).append (ih _)

/-- The temperature known after a run is that of its latest reading, or was known before. -/
theorem current_run (e : Executor) (actions : List Action) :
    (e.run actions).1.state.map (·.current) =
      ((latestReading? actions).map (·.temperature)).or (e.state.map (·.current)) := by
  induction actions generalizing e with
  | nil => rfl
  | cons action rest ih =>
    rw [run, ih, current_perform, latestReading?, latestReading?]
    cases hreading : action.reading? with
    | none => rw [List.filterMap_cons_none hreading, Option.map_none, Option.none_or]
    | some r =>
      rw [List.filterMap_cons_some hreading, List.getLast?_cons]
      cases (rest.filterMap Action.reading?).getLast? <;> rfl

/-- What every run from a new executor keeps. -/
structure Governed (policy : ThermalPolicy) (id : DeviceId) (e : Executor) : Prop where
  deviceId : e.deviceId = id
  thresholds : e.thresholds = .of policy
  unseen : e.state = none → e.mode = .running
  seen : ∀ state, e.state = some state → state.mode = e.mode
  reduces : policy.reducesPrecision = false → e.mode ≠ .precisionReduced

theorem Governed.onModel (policy : ThermalPolicy) (id : DeviceId) (serial : Nat)
    (model : Model Float) : Governed policy id (onModel policy id serial model) where
  deviceId := rfl
  thresholds := rfl
  unseen _ := rfl
  seen _ h := by cases h
  reduces _ := Mode.noConfusion

theorem Governed.observe (h : Governed policy id e) (r : Reading) :
    Governed policy id (e.observe r).1 where
  deviceId := h.deviceId
  thresholds := h.thresholds
  unseen hnone := by cases hnone
  seen state hstate := by
    obtain rfl := Option.some.inj hstate
    rfl
  reduces hpolicy := by
    have ht : e.thresholds.reducesPrecision = false := by
      rw [h.thresholds]
      exact hpolicy
    exact nextMode_ne_precisionReduced ht (h.reduces hpolicy) _ _

theorem Governed.perform (h : Governed policy id e) (action : Action) :
    Governed policy id (e.perform action).1 := by
  rcases e.perform_cases action with ⟨r, -, heq⟩ | ⟨-, inFlight, heq⟩
  · rw [heq]
    exact h.observe r
  · rw [heq]
    exact { h with }

theorem Governed.run (h : Governed policy id e) (actions : List Action) :
    Governed policy id (e.run actions).1 := by
  induction actions generalizing e with
  | nil => exact h
  | cons action rest ih => exact ih (h.perform action)

/-- A paused executor leaves its mode only at a reading below the resume threshold, and then runs. -/
theorem Governed.resumes (h : Governed policy id e) (hpaused : e.mode = .paused) {action : Action}
    (hmode : (e.perform action).1.mode ≠ .paused) :
    ∃ r, action = .observe r ∧ r.temperature < policy.resumeBelow ∧
      (e.perform action).1.mode = .running := by
  rcases e.perform_cases action with ⟨r, haction, heq⟩ | ⟨-, inFlight, heq⟩
  · rw [heq, mode_observe, assess, hpaused, h.thresholds] at hmode ⊢
    rcases nextMode_paused_cases (.of policy) r.temperature
      (e.model.predict r.temperature r.power e.horizon) with hstays | ⟨hcool, hgoes⟩
    · exact absurd hstays hmode
    · exact ⟨r, haction, hcool, hgoes⟩
  · rw [heq] at hmode
    exact absurd hpaused hmode

/--
After any run of a new executor, on any policy and any thermal model: the reported changes lead from
running to the mode of the executor. A paused executor goes on only at a reading strictly below the
resume threshold, and then runs. A critical reading pauses it; it never computes at reduced precision
when that is switched off; its state has its mode; and a change is reported exactly when the mode
changes. Compute is refused exactly while it is paused, with the temperature of the latest reading.
-/
theorem run_safe (policy : ThermalPolicy) (id : DeviceId) (serial : Nat) (model : Model Float)
    (actions : List Action) :
    let e := ((onModel policy id serial model).run actions).1
    Leads .running ((onModel policy id serial model).run actions).2 e.mode ∧
    (∀ action, e.mode = .paused → (e.perform action).1.mode ≠ .paused →
      ∃ r, action = .observe r ∧ r.temperature < policy.resumeBelow ∧
        (e.perform action).1.mode = .running) ∧
    (∀ r, (policy.critical ≤ r.temperature → (e.observe r).1.mode = .paused) ∧
      (policy.reducesPrecision = false → (e.observe r).1.mode ≠ .precisionReduced) ∧
      (∃ state, (e.observe r).1.state = some state ∧ state.mode = (e.observe r).1.mode) ∧
      (((e.observe r).1.mode = e.mode ∧ (e.observe r).2 = none) ∨
        ((e.observe r).1.mode ≠ e.mode ∧ ∃ t, (e.observe r).2 = some t ∧ t.source = e.mode ∧
          t.target = (e.observe r).1.mode))) ∧
    ((∃ cause, e.beginCompute = .error cause) ↔ e.mode = .paused) ∧
    ∀ cause, e.beginCompute = .error cause →
      ∃ r, latestReading? actions = some r ∧ cause = ⟨id, r.temperature⟩ := by
  intro e
  have hgoverned : Governed policy id e := (Governed.onModel policy id serial model).run actions
  refine ⟨leads_run (onModel ..) actions, fun _ hpaused hmode => hgoverned.resumes hpaused hmode,
    fun r => ?_, ?_, fun cause hcause => ?_⟩
  · refine ⟨fun hcritical => ?_, (hgoverned.observe r).reduces, ⟨_, rfl, rfl⟩,
      e.transition_observe r⟩
    have hcritical' : e.thresholds.critical ≤ r.temperature := by
      rw [hgoverned.thresholds]
      exact hcritical
    exact nextMode_of_critical hcritical' _ _
  · rcases e.beginCompute_cases with ⟨hmode, hok⟩ | ⟨hmode, herror⟩
    · rw [hok]
      exact iff_of_false (fun ⟨_, h⟩ => by cases h) hmode
    · exact iff_of_true ⟨_, herror⟩ hmode
  · rcases e.beginCompute_cases with ⟨-, hok⟩ | ⟨hmode, herror⟩
    · rw [hok] at hcause
      cases hcause
    · -- A paused executor has a state, so that the temperature is not taken from the thresholds.
      obtain ⟨state, hstate⟩ : ∃ state, e.state = some state := by
        by_contra hnone
        rw [hgoverned.unseen (Option.eq_none_iff_forall_ne_some.mpr fun st h => hnone ⟨st, h⟩)]
          at hmode
        cases hmode
      have hcurrent := current_run (onModel policy id serial model) actions
      rw [show (run _ _).1.state = some state from hstate] at hcurrent
      rw [herror, hstate, hgoverned.deviceId] at hcause
      cases hlatest : latestReading? actions with
      | none =>
        rw [hlatest] at hcurrent
        cases hcurrent
      | some r =>
        rw [hlatest] at hcurrent
        refine ⟨r, rfl, ?_⟩
        rw [← Except.error.inj hcause]
        exact congrArg (TooHot.mk id) (Option.some.inj hcurrent)

/-- A new executor that is paused by its first reading, and refuses compute with its temperature. -/
theorem run_safe_of_overheating :
    let e := onModel {} "gpu" 0 ⟨.standard, 25⟩
    let hot : Reading := ⟨.epoch, 90, 300⟩
    ({} : ThermalPolicy).critical ≤ hot.temperature ∧ (e.observe hot).1.mode = .paused ∧
      (e.observe hot).1.beginCompute = .error ⟨"gpu", 90⟩ := by
  intro e hot
  have hcritical : ({} : ThermalPolicy).critical ≤ hot.temperature := by decide
  obtain ⟨-, -, hobserve, -⟩ := run_safe {} "gpu" 0 ⟨.standard, 25⟩ []
  have hpaused : (e.observe hot).1.mode = .paused := (hobserve hot).1 hcritical
  obtain ⟨-, -, -, hrefused, hlatest⟩ := run_safe {} "gpu" 0 ⟨.standard, 25⟩ [.observe hot]
  obtain ⟨cause, hcause⟩ := hrefused.mpr hpaused
  obtain ⟨r, hr, rfl⟩ := hlatest cause hcause
  obtain rfl := Option.some.inj hr
  exact ⟨hcritical, hpaused, hcause⟩

end GpuCluster.Thermal.Executor
