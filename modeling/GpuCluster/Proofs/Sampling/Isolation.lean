import Mathlib
import GpuCluster.Proofs.Sampling.Course

/-!
# Devices do not disturb each other's sampling

The answers of the source and of the inlet are written down in advance, in one script for each device,
and the sampler's requests are recorded. The visits to a device then depend on its own script alone:
they are as punctual as a timer, they stop where the script closes the inlet, and whatever happens to
the other devices in between leaves no trace in them.
-/

namespace GpuCluster.Sampling

/-! ## Scripts -/

/-- What the source and the inlet are going to answer about one device. -/
structure Script where
  /-- The answers of the source, call by call; nothing stands for a failure. -/
  samples : Nat → Option (Sample Float)
  /-- The answers of the inlet, sample by sample. -/
  verdicts : Nat → Verdict

namespace Script

/-- What comes of the next visit. -/
def next (script : Script) : Option (Sample Float × Verdict) :=
  (script.samples 0).map fun sample => (sample, script.verdicts 0)

def afterPull (script : Script) : Script :=
  { script with samples := fun n => script.samples (n + 1) }

def afterDelivery (script : Script) : Script :=
  { script with verdicts := fun n => script.verdicts (n + 1) }

/-- What is left of the script after one visit. -/
def after (script : Script) : Script :=
  if (script.samples 0).isSome then script.afterPull.afterDelivery else script.afterPull

/-- The visits go by the script as far as they go. -/
inductive Directs : Script → List Visit → Script → Prop
  | nil {script : Script} : Directs script [] script
  | cons {script rest : Script} {v : Visit} {visits : List Visit}
    (hreceived : v.received = script.next) (hrest : Directs script.after visits rest) :
    Directs script (v :: visits) rest

end Script

/-- What a sampler asks of its surroundings. -/
inductive Request where
  | pull (id : DeviceId)
  | deliver (sample : Sample Float)

/-- A visit pulls one sample, and hands on that very sample if there is one. -/
def Visit.requests (v : Visit) : List Request :=
  .pull v.deviceId :: (v.received.map fun reception => .deliver reception.1).toList

structure Stage where
  /-- What is left of the script of each device. -/
  scripts : DeviceId → Script
  /-- The device that was asked for last, whose sample it is that is handed on. -/
  asked : DeviceId
  requests : List Request

/-- Surroundings that answer by the scripts and record what they are asked. -/
def staged : Surroundings Stage where
  pull id stage := ((stage.scripts id).samples 0,
    { scripts := Function.update stage.scripts id (stage.scripts id).afterPull
      asked := id
      requests := stage.requests ++ [.pull id] })
  deliver sample stage := ((stage.scripts stage.asked).verdicts 0,
    { stage with
      scripts := Function.update stage.scripts stage.asked (stage.scripts stage.asked).afterDelivery
      requests := stage.requests ++ [.deliver sample] })

def Stage.opening (scripts : DeviceId → Script) : Stage := ⟨scripts, "", []⟩

variable {s : Sampler} {id : DeviceId} {limit count interval : Nat} {stage : Stage}

theorem attend_staged (id : DeviceId) (stage : Stage) :
    attend staged id stage = ((stage.scripts id).next,
      { scripts := Function.update stage.scripts id (stage.scripts id).after
        asked := id
        requests := stage.requests ++
          Visit.requests ⟨id, 0, (stage.scripts id).next⟩ }) := by
  rw [attend, Script.next, Script.after]
  simp only [staged]
  rcases hsample : (stage.scripts id).samples 0 with _ | sample
  · rfl
  · simp [Visit.requests, Script.afterPull]

namespace Sampler

theorem requests_tick (t : Tick) :
    (s.tick staged t stage).2.requests = stage.requests ++ (visit staged t stage).requests := by
  rw [tick_eq, visit, attend_staged]
  rfl

theorem scripts_tick (t : Tick) (id : DeviceId) :
    (s.tick staged t stage).2.scripts id =
      if t.deviceId = id then (stage.scripts id).after else stage.scripts id := by
  rw [tick_eq, attend_staged]
  dsimp only
  obtain rfl | hid := eq_or_ne t.deviceId id
  · rw [if_pos rfl, Function.update_self]
  · rw [if_neg hid, Function.update_of_ne hid.symm]

theorem requests_run (limit count : Nat) (s : Sampler) (stage : Stage) :
    (run staged limit count s stage).2.requests =
      stage.requests ++ (visits staged limit count s stage).flatMap Visit.requests := by
  induction count generalizing s stage with
  | zero => exact (List.append_nil _).symm
  | succ count ih =>
    cases hnext : s.next? limit with
    | none =>
      rw [run_of_next?_eq_none hnext, visits_of_next?_eq_none hnext]
      exact (List.append_nil _).symm
    | some t =>
      rw [run_of_next? hnext, visits_of_next? hnext, ih, requests_tick, List.flatMap_cons,
        List.append_assoc]

theorem directs_run (limit count : Nat) (s : Sampler) (stage : Stage) (id : DeviceId) :
    (stage.scripts id).Directs (visitsOf id (visits staged limit count s stage))
      ((run staged limit count s stage).2.scripts id) := by
  induction count generalizing s stage with
  | zero => exact .nil
  | succ count ih =>
    cases hnext : s.next? limit with
    | none =>
      rw [run_of_next?_eq_none hnext, visits_of_next?_eq_none hnext]
      exact .nil
    | some t =>
      have hrest := ih (s.tick staged t stage).1 (s.tick staged t stage).2
      rw [scripts_tick] at hrest
      rw [run_of_next? hnext, visits_of_next? hnext]
      have hdevice : (visit staged t stage).deviceId = t.deviceId := rfl
      obtain rfl | hid := eq_or_ne t.deviceId id
      · rw [if_pos rfl] at hrest
        rw [visitsOf_cons_self hdevice]
        refine .cons ?_ hrest
        rw [visit, attend_staged]
      · rw [if_neg hid] at hrest
        rw [visitsOf_cons_of_ne hid]
        exact hrest

end Sampler

theorem Punctual.eq_of_directs {source final final' : Option Progress} {vs vs' : List Visit}
    {script rest rest' : Script} (h : Punctual interval limit source vs final)
    (h' : Punctual interval limit source vs' final') (hscript : script.Directs vs rest)
    (hscript' : script.Directs vs' rest') (hid : ∀ v ∈ vs, v.deviceId = id)
    (hid' : ∀ v ∈ vs', v.deviceId = id) : vs = vs' ∧ final = final' ∧ rest = rest' := by
  induction h generalizing vs' script with
  | idle hidle =>
    cases hscript
    cases h' with
    | idle =>
      cases hscript'
      exact ⟨rfl, rfl, rfl⟩
    | visit hle => exact absurd hle (hidle _ rfl).not_ge
  | @visit v visits final hle hrest ih =>
    generalize hsource : some (Progress.waiting v.due) = source at h'
    cases h' with
    | idle hidle => exact absurd hle (hidle _ hsource.symm).not_ge
    | @visit v' visits' _ _ hrest' =>
      cases hscript with | cons hreceived hscript =>
      cases hscript' with | cons hreceived' hscript' =>
      have hsame : v = v' := by
        obtain ⟨device, due, received⟩ := v
        obtain ⟨device', due', received'⟩ := v'
        cases hsource
        cases hreceived.trans hreceived'.symm
        cases (hid _ List.mem_cons_self).trans (hid' _ List.mem_cons_self).symm
        rfl
      subst hsame
      obtain ⟨rfl, rfl, rfl⟩ := ih hrest' hscript hscript'
        (fun v hv => hid v (List.mem_cons_of_mem _ hv))
        (fun v hv => hid' v (List.mem_cons_of_mem _ hv))
      exact ⟨rfl, rfl, rfl⟩

/-! ## The timer of a device -/

/--
The visits to a device since its loop was started, after the actions `later`. The first one is made
when time moves on, at the time of the start; without an interval there is none.
-/
inductive Since (interval started : Nat) (later : List Action) (now : Nat) :
    Option Progress → List Visit → Prop
  | fresh (hnow : now = started) (hlater : ∀ ms, .advance ms ∉ later) :
    Since interval started later now (some .fresh) []
  | unable (hinterval : interval = 0) : Since interval started later now (some .ended) []
  | begun {final : Option Progress} {vs : List Visit}
    (h : Punctual interval now (some (.waiting started)) vs final) :
    Since interval started later now final vs

/-- The visits of a loop that was started at `started`, one on every beat of its timer until `now`. -/
structure Regular (interval started now : Nat) (vs : List Visit) : Prop where
  due_eq : vs.map (·.due) = (List.range vs.length).map fun k => started + k * interval
  due_le : ∀ v ∈ vs, v.due ≤ now
  goesOn : ∀ v ∈ vs.dropLast, v.isLast = false

namespace Since

variable {started now ms : Nat} {later : List Action} {action : Action}
  {progress final : Option Progress} {vs vs' : List Visit}

theorem exists_progress (h : Since interval started later now progress vs) :
    ∃ p, progress = some p := by
  cases h with
  | fresh => exact ⟨_, rfl⟩
  | unable => exact ⟨_, rfl⟩
  | begun hbegun =>
    obtain ⟨due, rfl⟩ | ⟨rfl, -⟩ := hbegun.final_cases
    · exact ⟨_, rfl⟩
    · exact ⟨_, rfl⟩

theorem advance (h : Since interval started later now progress vs)
    (hvisits : Punctual interval (now + ms) (progress.map (Progress.woken interval now)) vs' final) :
    Since interval started (later ++ [.advance ms]) (now + ms) final (vs ++ vs') := by
  cases h with
  | fresh hnow =>
    subst hnow
    rw [Option.map_some, Progress.woken] at hvisits
    split at hvisits
    · rename_i hinterval
      obtain ⟨rfl, rfl⟩ := hvisits.eq_of_ended
      exact .unable hinterval
    · exact .begun hvisits
  | unable hinterval =>
    obtain ⟨rfl, rfl⟩ := hvisits.eq_of_ended
    exact .unable hinterval
  | begun hbegun =>
    refine .begun (hbegun.append (Nat.le_add_right now ms) ?_)
    obtain ⟨due, rfl⟩ | ⟨rfl, -⟩ := hbegun.final_cases
    · exact hvisits
    · exact hvisits

theorem stay (h : Since interval started later now progress vs)
    (haction : ∀ ms, action ≠ .advance ms) :
    Since interval started (later ++ [action]) now progress vs := by
  cases h with
  | fresh hnow hlater =>
    refine .fresh hnow fun ms hmem => ?_
    obtain hold | heq := List.mem_append.mp hmem
    · exact hlater ms hold
    · exact haction ms (List.mem_singleton.mp heq).symm
  | unable hinterval => exact .unable hinterval
  | begun hbegun => exact .begun hbegun

theorem regular (h : Since interval started later now progress vs) :
    Regular interval started now vs := by
  have hnil : Regular interval started now [] :=
    ⟨rfl, fun _ hv => (nomatch hv), fun _ hv => (nomatch hv)⟩
  cases h with
  | fresh => exact hnil
  | unable => exact hnil
  | begun hbegun => exact ⟨hbegun.due_eq, hbegun.due_le, hbegun.isLast_dropLast⟩

/-- No beat is left out while the loop goes on. -/
theorem lt_next (h : Since interval started later now progress vs) (hlater : .advance ms ∈ later)
    {p : Progress} (hprogress : progress = some p) (hactive : p ≠ .ended) :
    now < started + vs.length * interval := by
  cases h with
  | fresh _ hnone => exact absurd hlater (hnone ms)
  | unable =>
    cases hprogress
    exact absurd rfl hactive
  | begun hbegun =>
    obtain ⟨due, rfl⟩ | ⟨rfl, -⟩ := hbegun.final_cases
    · rw [← hbegun.next_due]
      exact hbegun.lt_of_waiting
    · cases hprogress
      exact absurd rfl hactive

theorem exists_last (h : Since interval started later now (some .ended) vs)
    (hinterval : interval ≠ 0) : ∃ v, vs.getLast? = some v ∧ v.isLast = true := by
  cases h with
  | unable hzero => exact absurd hzero hinterval
  | begun hbegun =>
    obtain ⟨due, hdue⟩ | ⟨-, hlast⟩ := hbegun.final_cases
    · cases hdue
    · exact hlast

end Since

namespace Course

variable {σ : Type} {w : Surroundings σ} {c : Course σ} {action : Action} {started : Nat}
  {later : List Action} {vs : List Visit}

theorem since_spawn (hspawn : (c.sampler.spawn id).2 = true) :
    Since c.sampler.intervalMs c.sampler.now [] c.sampler.now
      ((c.perform w (.spawn id)).sampler.progress? id) [] := by
  rw [perform, Sampler.progress?_spawn, if_pos ⟨hspawn, rfl⟩]
  exact .fresh rfl fun _ => List.not_mem_nil

theorem since_perform (hc : c.sampler.Timely)
    (h : Since c.sampler.intervalMs started later c.sampler.now (c.sampler.progress? id) vs)
    (hstop : action ≠ .stop id) (hdown : action ≠ .shutDown) (w : Surroundings σ) :
    Since c.sampler.intervalMs started (later ++ [action]) (c.perform w action).sampler.now
      ((c.perform w action).sampler.progress? id) (vs ++ visitsOf id (c.visitsIn w action)) := by
  cases action with
  | spawn id' =>
    obtain ⟨p, hprogress⟩ := h.exists_progress
    have hsome : c.sampler.progress? id ≠ none := hprogress ▸ Option.some_ne_none p
    have hnil : visitsOf id (c.visitsIn w (.spawn id')) = [] := rfl
    rw [perform, Sampler.progress?_spawn_of_ne_none hsome, Sampler.now_spawn, hnil, List.append_nil]
    exact h.stay (by rintro ms ⟨⟩)
  | stop id' =>
    have hnil : visitsOf id (c.visitsIn w (.stop id')) = [] := rfl
    rw [perform, Sampler.progress?_stop_of_ne (mt (congrArg Action.stop) hstop), hnil, List.append_nil]
    exact h.stay (by rintro ms ⟨⟩)
  | advance ms => exact h.advance (Sampler.punctual_advance hc w ms c.state id)
  | shutDown => exact absurd rfl hdown

theorem since_run (hc : c.sampler.Timely) (hspawn : (c.sampler.spawn id).2 = true)
    (hstop : .stop id ∉ later) (hdown : .shutDown ∉ later) (w : Surroundings σ) :
    ∃ vs, visitsOf id (c.run w (.spawn id :: later)).log = visitsOf id c.log ++ vs ∧
      Since c.sampler.intervalMs c.sampler.now later (c.run w (.spawn id :: later)).sampler.now
        ((c.run w (.spawn id :: later)).sampler.progress? id) vs := by
  induction later using List.reverseRecOn with
  | nil =>
    refine ⟨[], ?_, ?_⟩
    · rw [List.append_nil]
      exact congrArg (visitsOf id) (List.append_nil _)
    · have hnow : (c.run w [.spawn id]).sampler.now = c.sampler.now := Sampler.now_spawn _ _
      rw [hnow]
      exact since_spawn hspawn
  | append_singleton later action ih =>
    rw [List.mem_append, not_or, List.mem_singleton] at hstop hdown
    obtain ⟨vs, hlog, hsince⟩ := ih hstop.1 hdown.1
    have hrun : c.run w (.spawn id :: (later ++ [action])) =
        (c.run w (.spawn id :: later)).perform w action := c.run_append w (.spawn id :: later) [action]
    have hinterval := intervalMs_run w c (.spawn id :: later)
    rw [← hinterval] at hsince ⊢
    have hnext := since_perform (timely_run hc w _) hsince (Ne.symm hstop.2) (Ne.symm hdown.2) w
    refine ⟨_, ?_, hrun ▸ hnext⟩
    rw [hrun, visitsOf_log_perform, hlog, List.append_assoc]

/-- The visits since an accepted spawn are regular; the last one has met a closed inlet if the loop is
over, and otherwise none is left out. -/
theorem regular_run (hc : c.sampler.Timely) (hspawn : (c.sampler.spawn id).2 = true)
    (hstop : .stop id ∉ later) (hdown : .shutDown ∉ later) (w : Surroundings σ) :
    ∃ vs, visitsOf id (c.run w (.spawn id :: later)).log = visitsOf id c.log ++ vs ∧
      Regular c.sampler.intervalMs c.sampler.now (c.run w (.spawn id :: later)).sampler.now vs ∧
      (id ∈ (c.run w (.spawn id :: later)).sampler.running → ∀ ms, .advance ms ∈ later →
        (c.run w (.spawn id :: later)).sampler.now <
          c.sampler.now + vs.length * c.sampler.intervalMs) ∧
      (id ∉ (c.run w (.spawn id :: later)).sampler.running → c.sampler.intervalMs ≠ 0 →
        ∃ v, vs.getLast? = some v ∧ v.isLast = true) := by
  obtain ⟨vs, hlog, hsince⟩ := since_run hc hspawn hstop hdown w
  refine ⟨vs, hlog, hsince.regular, ?_, ?_⟩
  · intro hrunning ms hms
    obtain ⟨p, hprogress, hactive⟩ := Sampler.mem_running_iff_progress?.mp hrunning
    exact hsince.lt_next hms hprogress hactive
  · intro hidle hpositive
    obtain ⟨p, hprogress⟩ := hsince.exists_progress
    obtain hnone | hended := Sampler.not_mem_running_iff.mp hidle
    · cases hprogress.symm.trans hnone
    · rw [hended] at hsince
      exact hsince.exists_last hpositive

/-! ## Two courses side by side -/

/-- What can be told of one device is the same in two courses. -/
structure Alike (id : DeviceId) (c c' : Course Stage) : Prop where
  intervalMs : c.sampler.intervalMs = c'.sampler.intervalMs
  now : c.sampler.now = c'.sampler.now
  isShutDown : c.sampler.isShutDown = c'.sampler.isShutDown
  progress : c.sampler.progress? id = c'.sampler.progress? id
  script : c.state.scripts id = c'.state.scripts id
  log : visitsOf id c.log = visitsOf id c'.log

theorem Alike.spawn {c c' : Course Stage} (h : Alike id c c') (id' : DeviceId) :
    Alike id (c.perform staged (.spawn id')) (c'.perform staged (.spawn id')) where
  intervalMs := by
    rw [intervalMs_perform, intervalMs_perform, h.intervalMs]
  now := ((Sampler.now_spawn _ _).trans h.now).trans (Sampler.now_spawn _ _).symm
  isShutDown :=
    ((Sampler.isShutDown_spawn _ _).trans h.isShutDown).trans (Sampler.isShutDown_spawn _ _).symm
  progress := by
    rw [perform, perform, Sampler.progress?_spawn, Sampler.progress?_spawn, h.progress]
    obtain rfl | hid := eq_or_ne id' id
    · simp only [Sampler.spawn_eq_true_iff, h.isShutDown, h.progress]
    · rw [if_neg fun heq => hid heq.2, if_neg fun heq => hid heq.2]
  script := h.script
  log := by
    rw [visitsOf_log_perform, visitsOf_log_perform, h.log]
    rfl

theorem Alike.stop {c c' : Course Stage} (h : Alike id c c') (id' : DeviceId) :
    Alike id (c.perform staged (.stop id')) (c'.perform staged (.stop id')) where
  intervalMs := h.intervalMs
  now := h.now
  isShutDown := h.isShutDown
  progress := by
    rw [perform, perform, Sampler.progress?_stop, Sampler.progress?_stop, h.progress]
  script := h.script
  log := by
    rw [visitsOf_log_perform, visitsOf_log_perform, h.log]
    rfl

theorem Alike.advance {c c' : Course Stage} (h : Alike id c c') (hc : c.sampler.Timely)
    (hc' : c'.sampler.Timely) (ms : Nat) :
    Alike id (c.perform staged (.advance ms)) (c'.perform staged (.advance ms)) := by
  have hvisits := Sampler.punctual_advance hc staged ms c.state id
  have hvisits' := Sampler.punctual_advance hc' staged ms c'.state id
  rw [← h.intervalMs, ← h.now, ← h.progress] at hvisits'
  have hscript := Sampler.directs_run (c.sampler.now + ms) (c.sampler.tickBound ms) c.sampler.awake
    c.state id
  have hscript' := Sampler.directs_run (c'.sampler.now + ms) (c'.sampler.tickBound ms)
    c'.sampler.awake c'.state id
  rw [← h.script] at hscript'
  obtain ⟨hsame, hprogress, hrest⟩ := hvisits.eq_of_directs hvisits' hscript hscript'
    (fun v => deviceId_of_mem_visitsOf) (fun v => deviceId_of_mem_visitsOf)
  refine ⟨?_, congrArg (· + ms) h.now, ?_, hprogress, hrest, ?_⟩
  · rw [intervalMs_perform, intervalMs_perform, h.intervalMs]
  · rw [perform, perform, Sampler.isShutDown_advance, Sampler.isShutDown_advance, h.isShutDown]
  · rw [visitsOf_log_perform, visitsOf_log_perform, h.log]
    exact congrArg _ hsame

theorem Alike.shutDown {c c' : Course Stage} (h : Alike id c c') :
    Alike id (c.perform staged .shutDown) (c'.perform staged .shutDown) where
  intervalMs := h.intervalMs
  now := h.now
  isShutDown := rfl
  progress := rfl
  script := h.script
  log := by
    rw [visitsOf_log_perform, visitsOf_log_perform, h.log]
    rfl

theorem Alike.run {c c' : Course Stage} (h : Alike id c c') (hc : c.sampler.Timely)
    (hc' : c'.sampler.Timely) (actions : List Action) :
    Alike id (c.run staged actions) (c'.run staged actions) := by
  induction actions generalizing c c' with
  | nil => exact h
  | cons action rest ih =>
    refine ih ?_ (timely_perform hc staged action) (timely_perform hc' staged action)
    cases action with
    | spawn id' => exact h.spawn id'
    | stop id' => exact h.stop id'
    | advance ms => exact h.advance hc hc' ms
    | shutDown => exact h.shutDown

theorem requests_perform (c : Course Stage) (action : Action) :
    (c.perform staged action).state.requests =
      c.state.requests ++ (c.visitsIn staged action).flatMap Visit.requests := by
  cases action with
  | advance ms => exact Sampler.requests_run _ _ c.sampler.awake c.state
  | _ => exact (List.append_nil _).symm

theorem requests_run {c : Course Stage} (hc : c.state.requests = c.log.flatMap Visit.requests)
    (actions : List Action) :
    (c.run staged actions).state.requests = (c.run staged actions).log.flatMap Visit.requests := by
  refine run_invariant (P := fun c : Course Stage =>
    c.state.requests = c.log.flatMap Visit.requests) hc ?_ actions
  intro c action h
  rw [requests_perform, log_perform, List.flatMap_append, h]

end Course

/--
Whatever the scripts say and whatever is done: every visit to a device pulls one sample, and hands on
that very sample if there is one, and nothing else is asked. A device that is new or has been stopped is
accepted until the shutdown. From an accepted spawn on, the visits to a device are regular and none is
left out while its loop goes on. A loop ends only when it is stopped, at the shutdown, or by a closed
inlet that met its own sample (without an interval, before it begins), and its device is not visited
afterwards unless it is spawned again before the shutdown. A device that is stopped is neither sampled
nor visited until it is spawned again, and none is after the shutdown. The visits to a device, with
their times and samples, are the same under all scripts that say the same about this device.
-/
theorem sampling_isolated (interval : Nat) (scripts : DeviceId → Script) (actions : List Action) :
    let opening := fun scripts => Course.start interval (Stage.opening scripts)
    let c := (opening scripts).run staged actions
    c.state.requests = c.log.flatMap Visit.requests ∧
    (∀ id, .shutDown ∉ actions → (.spawn id ∉ actions ∨
        ∃ before later : List Action, actions = before ++ .stop id :: later ∧ .spawn id ∉ later) →
      (c.sampler.spawn id).2 = true) ∧
    (∀ (before : List Action) (id : DeviceId) (later : List Action),
      actions = before ++ .spawn id :: later →
      let c₀ := (opening scripts).run staged before
      (c₀.sampler.spawn id).2 = true → .stop id ∉ later → .shutDown ∉ later →
      ∃ vs, visitsOf id c.log = visitsOf id c₀.log ++ vs ∧
        Regular interval c₀.sampler.now c.sampler.now vs ∧
        (id ∈ c.sampler.running → ∀ ms, .advance ms ∈ later →
          c.sampler.now < c₀.sampler.now + vs.length * interval) ∧
        (id ∉ c.sampler.running → interval ≠ 0 →
          ∃ v, vs.getLast? = some v ∧ v.isLast = true)) ∧
    (∀ id action, id ∈ c.sampler.running → id ∉ (c.perform staged action).sampler.running →
      action = .stop id ∨ action = .shutDown ∨ c.Closes staged id action ∨
        (interval = 0 ∧ c.sampler.progress? id = some .fresh ∧ ∃ ms, action = .advance ms)) ∧
    (∀ id later, id ∉ c.sampler.running → .shutDown ∈ actions ∨ .spawn id ∉ later →
      visitsOf id (c.run staged later).log = visitsOf id c.log) ∧
    (∀ (before : List Action) (id : DeviceId) (later : List Action),
      actions = before ++ .stop id :: later → .spawn id ∉ later →
      id ∉ c.sampler.running ∧
        visitsOf id c.log = visitsOf id ((opening scripts).run staged before).log) ∧
    (∀ before later : List Action, actions = before ++ .shutDown :: later →
      ∀ id, id ∉ c.sampler.running ∧
      visitsOf id c.log = visitsOf id ((opening scripts).run staged before).log) ∧
    ∀ id scripts', scripts' id = scripts id →
      visitsOf id ((opening scripts').run staged actions).log = visitsOf id c.log := by
  intro opening c
  have hopening : ∀ scripts, (opening scripts).sampler.Timely :=
    fun scripts => Course.timely_start interval (Stage.opening scripts)
  have hinterval : c.sampler.intervalMs = interval := Course.intervalMs_run staged _ actions
  have hc : c.sampler.Timely := Course.timely_run (hopening scripts) staged actions
  have htimely : ∀ before, ((opening scripts).run staged before).sampler.Timely :=
    fun before => Course.timely_run (hopening scripts) staged before
  have hstopped : ∀ (before : List Action) (id : DeviceId) (later : List Action),
      actions = before ++ .stop id :: later → .spawn id ∉ later →
      c.sampler.progress? id = none ∧
        visitsOf id c.log = visitsOf id ((opening scripts).run staged before).log := by
    intro before id later hactions hlater
    rw [show c = _ from Course.run_of_eq_append hactions staged (opening scripts)]
    exact Course.stopped_run (htimely before) hlater staged
  refine ⟨Course.requests_run rfl actions, ?_, ?_, ?_, ?_, ?_, ?_, ?_⟩
  · intro id hdown hfree
    refine Course.spawn_run_eq_true rfl hdown ?_
    rcases hfree with hnew | ⟨before, later, hactions, hlater⟩
    · exact Course.absent_run (hopening scripts) rfl hnew staged
    · exact (hstopped before id later hactions hlater).1
  · intro before id later hactions c₀ hspawn hstop hdown
    have hinterval₀ : c₀.sampler.intervalMs = interval := Course.intervalMs_run staged _ before
    rw [show c = _ from Course.run_of_eq_append hactions staged (opening scripts), ← hinterval₀]
    exact Course.regular_run (htimely before) hspawn hstop hdown staged
  · intro id action hrunning hended
    rw [← hinterval]
    exact Course.ends_cases hc hrunning hended
  · intro id later hidle hlater
    refine (Course.idle_run hc hidle (hlater.imp_left fun hdown => ?_) staged).2
    exact (Course.isShutDown_run staged _ actions).mpr (Or.inr hdown)
  · intro before id later hactions hlater
    obtain ⟨habsent, hlog⟩ := hstopped before id later hactions hlater
    exact ⟨Sampler.not_mem_running_iff.mpr (Or.inl habsent), hlog⟩
  · intro before later hactions id
    rw [show c = _ from Course.run_of_eq_append hactions staged (opening scripts)]
    exact Course.shutDown_run (htimely before) staged later id
  · intro id scripts' hscript
    have hsame : Course.Alike id (opening scripts') (opening scripts) :=
      ⟨rfl, rfl, rfl, rfl, hscript, rfl⟩
    exact (hsame.run (hopening scripts') (hopening scripts) actions).log

/-- A device is sampled on, at the same times, when the inlet closes for another one. -/
theorem sampling_isolated_of_closing :
    let failing : Script := ⟨fun _ => none, fun _ => .accepted⟩
    let closing : Script := ⟨fun _ => some ⟨"b", .epoch, 4, 16, 50, 200, 70, 1500⟩, fun _ => .closed⟩
    let course := fun scripts => (Course.start 10 (Stage.opening scripts)).run staged
      [.spawn "a", .spawn "b", .advance 25]
    let c := course fun id => if id = "b" then closing else failing
    "b" ∉ c.sampler.running ∧ (visitsOf "a" c.log).map (·.due) = [0, 10, 20] ∧
      visitsOf "a" (course fun _ => failing).log = visitsOf "a" c.log := by
  intro failing closing course c
  obtain ⟨-, -, hregular, -, -, -, -, hsame⟩ := sampling_isolated 10
    (fun id => if id = "b" then closing else failing) [.spawn "a", .spawn "b", .advance 25]
  obtain ⟨vs, hlog, hvs, -, -⟩ :=
    hregular [] "a" [.spawn "b", .advance 25] rfl rfl (by decide) (by decide)
  have hlength : vs.length = 3 := by
    have hall : visitsOf "a" c.log = vs := hlog
    rw [← hall]
    decide +kernel
  refine ⟨by decide +kernel, ?_, hsame "a" (fun _ => failing) rfl⟩
  rw [show visitsOf "a" c.log = vs from hlog, hvs.due_eq, hlength]
  rfl

end GpuCluster.Sampling
