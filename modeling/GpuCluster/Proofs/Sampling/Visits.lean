import Mathlib
import GpuCluster.Proofs.Sampling.Tasks

/-!
# The visits of a sampler

Every tick of a task is a visit to its device: a sample is pulled, and handed on if there is one. While
time passes a task that waits visits its device when it is due and then once in every interval, until
a visit finds the inlet closed; no visit is left out, since the ticks that are due are bounded by the
tasks and the time.
-/

namespace GpuCluster.Sampling

variable {σ : Type} {w : Surroundings σ} {s : Sampler} {state : σ} {id : DeviceId}
  {limit count interval : Nat}

/-! ## Visits -/

/-- What comes of asking for a sample: nothing, or the sample and how it was received. -/
def attend (w : Surroundings σ) (id : DeviceId) (state : σ) :
    Option (Sample Float × Verdict) × σ :=
  match w.pull id state with
  | (none, state) => (none, state)
  | (some sample, state) =>
    let (verdict, state) := w.deliver sample state
    (some (sample, verdict), state)

/-- A tick that was run, and what came of it. -/
structure Visit where
  deviceId : DeviceId
  due : Nat
  received : Option (Sample Float × Verdict)

namespace Visit

/-- The inlet was found closed. -/
def isLast (v : Visit) : Bool := v.received.any fun reception => reception.2 = .closed

/-- Where the visit leaves the task. -/
def after (v : Visit) (interval : Nat) : Progress :=
  if v.isLast then .ended else .waiting (v.due + interval)

end Visit

def visitsOf (id : DeviceId) (visits : List Visit) : List Visit :=
  visits.filter fun v => v.deviceId = id

theorem visitsOf_cons_self {v : Visit} (h : v.deviceId = id) (visits : List Visit) :
    visitsOf id (v :: visits) = v :: visitsOf id visits :=
  List.filter_cons_of_pos (decide_eq_true h)

theorem visitsOf_cons_of_ne {v : Visit} (h : v.deviceId ≠ id) (visits : List Visit) :
    visitsOf id (v :: visits) = visitsOf id visits :=
  List.filter_cons_of_neg (mt of_decide_eq_true h)

theorem deviceId_of_mem_visitsOf {v : Visit} {visits : List Visit} (h : v ∈ visitsOf id visits) :
    v.deviceId = id :=
  of_decide_eq_true (List.mem_filter.mp h).2

theorem visitsOf_append (id : DeviceId) (visits visits' : List Visit) :
    visitsOf id (visits ++ visits') = visitsOf id visits ++ visitsOf id visits' :=
  List.filter_append _ _

namespace Sampler

def visit (w : Surroundings σ) (t : Tick) (state : σ) : Visit :=
  ⟨t.deviceId, t.due, (attend w t.deviceId state).1⟩

/-- The visits that a run makes, one for each of its ticks. -/
def visits (w : Surroundings σ) (limit : Nat) : (count : Nat) → Sampler → σ → List Visit
  | 0, _, _ => []
  | count + 1, s, state =>
    match s.next? limit with
    | none => []
    | some t =>
      visit w t state :: visits w limit count (s.tick w t state).1 (s.tick w t state).2

def progress? (s : Sampler) (id : DeviceId) : Option Progress :=
  (s.tasks.get? id).map (·.progress)

theorem sample_eq (w : Surroundings σ) (id : DeviceId) (state : σ) :
    sample w id state =
      ((attend w id state).1.any fun reception => reception.2 = .closed, (attend w id state).2) := by
  rw [sample, attend]
  rcases w.pull id state with ⟨_ | sample, state'⟩ <;> rfl

theorem tick_eq (w : Surroundings σ) (s : Sampler) (t : Tick) (state : σ) :
    s.tick w t state =
      ({ s with tasks := s.tasks.modify t.deviceId fun task =>
          { task with progress := (visit w t state).after s.intervalMs } },
        (attend w t.deviceId state).2) := by
  simp only [tick, sample_eq]
  rfl

theorem visits_of_next? {t : Tick} (h : s.next? limit = some t) :
    visits w limit (count + 1) s state =
      visit w t state :: visits w limit count (s.tick w t state).1 (s.tick w t state).2 := by
  rw [visits, h]

theorem run_of_next? {t : Tick} (h : s.next? limit = some t) :
    run w limit (count + 1) s state =
      run w limit count (s.tick w t state).1 (s.tick w t state).2 := by
  rw [run, h]

theorem visits_of_next?_eq_none (h : s.next? limit = none) :
    visits w limit (count + 1) s state = [] := by
  rw [visits, h]

theorem run_of_next?_eq_none (h : s.next? limit = none) :
    run w limit (count + 1) s state = (s, state) := by
  rw [run, h]

theorem progress?_tick (w : Surroundings σ) (s : Sampler) (t : Tick) (state : σ) (id : DeviceId) :
    (s.tick w t state).1.progress? id =
      if t.deviceId = id then (s.progress? id).map fun _ => (visit w t state).after s.intervalMs
      else s.progress? id := by
  rw [tick_eq, progress?, progress?, Table.get?_modify]
  split <;> simp [Function.comp_def]

/-! ## The next tick -/

def dueBy (s : Sampler) (limit : Nat) : List Tick :=
  s.tasks.entries.filterMap fun (id, task) =>
    (task.due? limit).map fun due => Tick.mk id due task.serial

/-- The first of the ticks so far, after one more. -/
def earlier (first : Option Tick) (t : Tick) : Option Tick :=
  match first with
  | none => some t
  | some f => if t.precedes f then some t else first

theorem next?_eq (s : Sampler) (limit : Nat) :
    s.next? limit = (s.dueBy limit).foldl earlier none := rfl

theorem earlier_cases (first : Option Tick) (t : Tick) :
    earlier first t = some t ∨ (first ≠ none ∧ earlier first t = first) := by
  rcases first with _ | f
  · exact Or.inl rfl
  · rw [earlier]
    split
    · exact Or.inl rfl
    · exact Or.inr ⟨Option.some_ne_none f, rfl⟩

theorem mem_of_foldl_earlier {ticks : List Tick} {first : Option Tick} {t : Tick}
    (h : ticks.foldl earlier first = some t) : t ∈ ticks ∨ first = some t := by
  induction ticks generalizing first with
  | nil => exact Or.inr h
  | cons t' rest ih =>
    obtain hrest | hfirst := ih h
    · exact Or.inl (List.mem_cons_of_mem _ hrest)
    · obtain heq | ⟨-, heq⟩ := earlier_cases first t'
      · exact Or.inl (Option.some.inj (heq.symm.trans hfirst) ▸ List.mem_cons_self)
      · exact Or.inr (heq.symm.trans hfirst)

theorem eq_nil_of_foldl_earlier {ticks : List Tick} {first : Option Tick}
    (h : ticks.foldl earlier first = none) : ticks = [] ∧ first = none := by
  induction ticks generalizing first with
  | nil => exact ⟨rfl, h⟩
  | cons t rest ih =>
    have hfirst := (ih h).2
    obtain heq | ⟨hne, heq⟩ := earlier_cases first t
    · cases heq.symm.trans hfirst
    · exact absurd (heq.symm.trans hfirst) hne

theorem due?_eq_some_iff {task : Task} {due : Nat} :
    task.due? limit = some due ↔ task.progress = .waiting due ∧ due ≤ limit := by
  rw [Task.due?]
  cases task.progress with
  | fresh => simp
  | ended => simp
  | waiting due' =>
    simp only [Option.ite_none_right_eq_some, Option.some.injEq, Progress.waiting.injEq]
    constructor
    · rintro ⟨hle, rfl⟩
      exact ⟨rfl, hle⟩
    · rintro ⟨rfl, hle⟩
      exact ⟨hle, rfl⟩

theorem mem_dueBy_iff {t : Tick} :
    t ∈ s.dueBy limit ↔ ∃ task, s.tasks.get? t.deviceId = some task ∧
      task.progress = .waiting t.due ∧ t.due ≤ limit ∧ task.serial = t.serial := by
  rw [dueBy, List.mem_filterMap]
  constructor
  · rintro ⟨⟨id, task⟩, hmem, ht⟩
    obtain ⟨due, hdue, rfl⟩ := Option.map_eq_some_iff.mp ht
    obtain ⟨hprogress, hle⟩ := due?_eq_some_iff.mp hdue
    exact ⟨task, Table.get?_eq_some_iff.mpr hmem, hprogress, hle, rfl⟩
  · rintro ⟨task, hget, hprogress, hle, hserial⟩
    exact ⟨(t.deviceId, task), Table.get?_eq_some_iff.mp hget,
      Option.map_eq_some_iff.mpr ⟨t.due, due?_eq_some_iff.mpr ⟨hprogress, hle⟩, by rw [hserial]⟩⟩

theorem progress?_of_next? {t : Tick} (h : s.next? limit = some t) :
    s.progress? t.deviceId = some (.waiting t.due) ∧ t.due ≤ limit := by
  rw [next?_eq] at h
  obtain hmem | hnone := mem_of_foldl_earlier h
  · obtain ⟨task, hget, hprogress, hle, -⟩ := mem_dueBy_iff.mp hmem
    exact ⟨Option.map_eq_some_iff.mpr ⟨task, hget, hprogress⟩, hle⟩
  · cases hnone

theorem lt_due_of_next? (h : s.next? limit = none) {due : Nat}
    (hprogress : s.progress? id = some (.waiting due)) : limit < due := by
  obtain ⟨task, hget, htask⟩ := Option.map_eq_some_iff.mp hprogress
  by_contra hle
  have hmem : (⟨id, due, task.serial⟩ : Tick) ∈ s.dueBy limit :=
    mem_dueBy_iff.mpr ⟨task, hget, htask, Nat.le_of_not_lt hle, rfl⟩
  rw [next?_eq] at h
  rw [(eq_nil_of_foldl_earlier h).1] at hmem
  cases hmem

/-! ## How many ticks are due -/

def dueTicks (interval limit : Nat) : Progress → Nat
  | .waiting due => if due ≤ limit then (limit - due) / interval + 1 else 0
  | _ => 0

/-- The ticks that are due by `limit`, if no task ends before. -/
def pending (s : Sampler) (limit : Nat) : Nat :=
  (s.tasks.values.map fun task => dueTicks s.intervalMs limit task.progress).sum

theorem dueTicks_after_lt {v : Visit} (hinterval : interval ≠ 0) (hle : v.due ≤ limit) :
    dueTicks interval limit (v.after interval) < dueTicks interval limit (.waiting v.due) := by
  have hpositive : 0 < interval := Nat.pos_of_ne_zero hinterval
  have hdue : dueTicks interval limit (.waiting v.due) = (limit - v.due) / interval + 1 := if_pos hle
  rw [hdue, Visit.after]
  split
  · exact Nat.succ_pos _
  · rw [dueTicks]
    split_ifs with hnext
    · -- The time that is left is one interval less.
      have hleft : limit - v.due = limit - (v.due + interval) + interval := by omega
      rw [hleft, Nat.add_div_right _ hpositive]
      exact Nat.lt_succ_self _
    · exact Nat.succ_pos _

theorem pending_tick_lt {t : Tick} (h : s.next? limit = some t) (hinterval : s.intervalMs ≠ 0) :
    (s.tick w t state).1.pending limit < s.pending limit := by
  obtain ⟨hprogress, hle⟩ := progress?_of_next? h
  obtain ⟨task, hget, htask⟩ := Option.map_eq_some_iff.mp hprogress
  rw [tick_eq, pending, pending]
  refine Table.sum_values_modify_lt hget ?_
  rw [htask]
  exact dueTicks_after_lt (v := visit w t state) hinterval hle

theorem dueTicks_eq_zero_of_pending (h : s.pending limit = 0) {progress : Progress}
    (hprogress : s.progress? id = some progress) : dueTicks s.intervalMs limit progress = 0 := by
  obtain ⟨task, hget, rfl⟩ := Option.map_eq_some_iff.mp hprogress
  refine List.sum_eq_zero_iff.mp h _ (List.mem_map_of_mem ?_)
  exact List.mem_map_of_mem (Table.get?_eq_some_iff.mp hget)

end Sampler

/--
The visits that a task makes until `limit`, from a stage of its progress to another: it visits its
device when it is due, goes on from where the visit leaves it, and stops to be due only after `limit`.
Where there is no task, nothing is visited.
-/
inductive Punctual (interval limit : Nat) :
    Option Progress → List Visit → Option Progress → Prop
  | idle {progress : Option Progress} (h : ∀ due, progress = some (.waiting due) → limit < due) :
    Punctual interval limit progress [] progress
  | visit {v : Visit} {rest : List Visit} {final : Option Progress} (hle : v.due ≤ limit)
    (hrest : Punctual interval limit (some (v.after interval)) rest final) :
    Punctual interval limit (some (.waiting v.due)) (v :: rest) final

namespace Punctual

variable {limit' : Nat} {source final : Option Progress} {vs vs' : List Visit} {due : Nat}

theorem eq_of_not_waiting (h : Punctual interval limit source vs final)
    (hsource : ∀ due, source ≠ some (.waiting due)) : vs = [] ∧ final = source := by
  cases h with
  | idle => exact ⟨rfl, rfl⟩
  | visit => exact absurd rfl (hsource _)

theorem eq_of_ended (h : Punctual interval limit (some .ended) vs final) :
    vs = [] ∧ final = some .ended := by
  refine h.eq_of_not_waiting ?_
  rintro due ⟨⟩

theorem lt_of_waiting (h : Punctual interval limit source vs (some (.waiting due))) :
    limit < due := by
  generalize hfinal : some (Progress.waiting due) = final at h
  induction h with
  | idle hidle => exact hidle due hfinal.symm
  | visit hle hrest ih => exact ih hfinal

theorem exists_waiting (h : Punctual interval limit source vs (some (.waiting due))) :
    ∃ due', source = some (.waiting due') := by
  cases h with
  | idle => exact ⟨due, rfl⟩
  | visit => exact ⟨_, rfl⟩

/-- A task that waits is not due, makes its last visit, or makes a visit and waits again. -/
theorem waiting_induction {P : Nat → List Visit → Option Progress → Prop}
    (idle : ∀ due, limit < due → P due [] (some (.waiting due)))
    (last : ∀ v : Visit, v.due ≤ limit → v.isLast = true → P v.due [v] (some .ended))
    (next : ∀ (v : Visit) rest final, v.due ≤ limit → v.isLast = false →
      P (v.due + interval) rest final → P v.due (v :: rest) final)
    (h : Punctual interval limit (some (.waiting due)) vs final) : P due vs final := by
  generalize hsource : some (Progress.waiting due) = source at h
  induction h generalizing due with
  | idle hidle =>
    subst hsource
    exact idle due (hidle due rfl)
  | @visit v rest final hle hrest ih =>
    cases hsource
    cases hlast : v.isLast with
    | true =>
      rw [Visit.after, if_pos hlast] at hrest
      obtain ⟨rfl, rfl⟩ := hrest.eq_of_ended
      exact last v hle hlast
    | false =>
      refine next v rest final hle hlast (ih ?_)
      rw [Visit.after, if_neg (ne_true_of_eq_false hlast)]

/-- A task that waits goes on waiting, unless its last visit ends it. -/
theorem final_cases (h : Punctual interval limit (some (.waiting due)) vs final) :
    (∃ due', final = some (.waiting due')) ∨
      (final = some .ended ∧ ∃ v, vs.getLast? = some v ∧ v.isLast = true) := by
  refine waiting_induction (P := fun _ vs final => (∃ due', final = some (.waiting due')) ∨
    (final = some .ended ∧ ∃ v, vs.getLast? = some v ∧ v.isLast = true)) ?_ ?_ ?_ h
  · intro due _
    exact Or.inl ⟨due, rfl⟩
  · intro v _ hlast
    exact Or.inr ⟨rfl, v, rfl, hlast⟩
  · intro v rest final _ _ ih
    refine ih.imp_right ?_
    rintro ⟨hended, v', hv', hlast⟩
    refine ⟨hended, v', ?_, hlast⟩
    rw [List.getLast?_cons, hv']
    rfl

theorem append (h : Punctual interval limit source vs final) (hle : limit ≤ limit')
    {final' : Option Progress} (h' : Punctual interval limit' final vs' final') :
    Punctual interval limit' source (vs ++ vs') final' := by
  induction h with
  | idle => exact h'
  | visit hdue hrest ih => exact .visit (hdue.trans hle) (ih h')

theorem eq_none_iff (h : Punctual interval limit source vs final) :
    final = none ↔ source = none := by
  cases h with
  | idle => exact Iff.rfl
  | visit hle hrest =>
    refine iff_of_false ?_ (Option.some_ne_none _)
    rintro rfl
    obtain ⟨due, hdue⟩ | ⟨hended, -⟩ := final_cases (.visit hle hrest)
    · cases hdue
    · cases hended

theorem exists_head (h : Punctual interval limit (some (.waiting due)) vs final)
    (hle : due ≤ limit) : ∃ v, vs.head? = some v ∧ v.due = due := by
  cases h with
  | idle hidle => exact absurd hle (hidle due rfl).not_ge
  | @visit v => exact ⟨v, rfl, rfl⟩

theorem due_eq (h : Punctual interval limit (some (.waiting due)) vs final) :
    vs.map (·.due) = (List.range vs.length).map fun k => due + k * interval := by
  refine waiting_induction (P := fun due vs _ =>
    vs.map (·.due) = (List.range vs.length).map fun k => due + k * interval) ?_ ?_ ?_ h
  · intro due _
    rfl
  · intro v _ _
    simp
  · intro v rest final _ _ ih
    rw [List.map_cons, ih, List.length_cons, List.range_succ_eq_map, List.map_cons, List.map_map,
      Nat.zero_mul, Nat.add_zero]
    refine congrArg (v.due :: ·) (List.map_congr_left fun k _ => ?_)
    rw [Function.comp_apply, Nat.succ_mul, Nat.add_assoc, Nat.add_comm interval]

theorem due_le (h : Punctual interval limit source vs final) : ∀ v ∈ vs, v.due ≤ limit := by
  induction h with
  | idle => exact fun v hv => nomatch hv
  | visit hle hrest ih => exact List.forall_mem_cons.mpr ⟨hle, ih⟩

theorem isLast_dropLast (h : Punctual interval limit (some (.waiting due)) vs final) :
    ∀ v ∈ vs.dropLast, v.isLast = false := by
  refine waiting_induction (P := fun _ vs _ => ∀ v ∈ vs.dropLast, v.isLast = false) ?_ ?_ ?_ h
  · intro due _ v hv
    cases hv
  · intro v _ _ v' hv'
    cases hv'
  · intro v rest final _ hlast ih v' hv'
    cases rest with
    | nil => cases hv'
    | cons v'' rest =>
      obtain rfl | hrest := List.mem_cons.mp hv'
      · exact hlast
      · exact ih v' hrest

/-- A task that still waits waits for the next beat of its timer. -/
theorem next_due {due' : Nat}
    (h : Punctual interval limit (some (.waiting due)) vs (some (.waiting due'))) :
    due' = due + vs.length * interval := by
  refine waiting_induction (P := fun due vs final =>
    final = some (.waiting due') → due' = due + vs.length * interval) ?_ ?_ ?_ h rfl
  · rintro due _ ⟨⟩
    exact (congrArg (due' + ·) (Nat.zero_mul interval)).symm
  · rintro v _ _ ⟨⟩
  · intro v rest final _ _ ih hfinal
    rw [ih hfinal, List.length_cons, Nat.succ_mul, Nat.add_assoc, Nat.add_comm interval]

end Punctual

namespace Sampler

theorem punctual_run (hinterval : ∀ id due, s.progress? id = some (.waiting due) → s.intervalMs ≠ 0)
    (hcount : s.pending limit ≤ count) (w : Surroundings σ) (state : σ) (id : DeviceId) :
    Punctual s.intervalMs limit (s.progress? id) (visitsOf id (visits w limit count s state))
      ((run w limit count s state).1.progress? id) := by
  induction count generalizing s state with
  | zero =>
    refine .idle fun due hprogress => ?_
    have hnone := dueTicks_eq_zero_of_pending (Nat.le_zero.mp hcount) hprogress
    by_contra hle
    rw [dueTicks, if_pos (Nat.le_of_not_lt hle)] at hnone
    cases hnone
  | succ count ih =>
    cases hnext : s.next? limit with
    | none =>
      rw [visits_of_next?_eq_none hnext, run_of_next?_eq_none hnext]
      exact .idle fun due hprogress => lt_due_of_next? hnext hprogress
    | some t =>
      obtain ⟨hprogress, hle⟩ := progress?_of_next? hnext
      have hpositive := hinterval _ _ hprogress
      have hrest := ih (s := (s.tick w t state).1) (fun _ _ _ => hpositive)
        (Nat.lt_succ_iff.mp ((pending_tick_lt hnext hpositive).trans_le hcount))
        (s.tick w t state).2
      rw [progress?_tick] at hrest
      rw [visits_of_next? hnext, run_of_next? hnext]
      have hdevice : (visit w t state).deviceId = t.deviceId := rfl
      obtain rfl | hid := eq_or_ne t.deviceId id
      · rw [if_pos rfl, hprogress] at hrest
        rw [hprogress, visitsOf_cons_self hdevice]
        exact .visit (v := visit w t state) hle hrest
      · rw [if_neg hid] at hrest
        rw [visitsOf_cons_of_ne hid]
        exact hrest

/-! ## Time that passes -/

/-- A task that waits is not overdue, and has an interval to keep. -/
def Timely (s : Sampler) : Prop :=
  ∀ id due, s.progress? id = some (.waiting due) → s.intervalMs ≠ 0 ∧ s.now ≤ due

/-- The sampler with every task begun. -/
def awake (s : Sampler) : Sampler :=
  { s with tasks := s.tasks.map fun _ t => t.wake s.intervalMs s.now }

def visitsDuring (w : Surroundings σ) (s : Sampler) (ms : Nat) (state : σ) : List Visit :=
  visits w (s.now + ms) (s.tickBound ms) s.awake state

end Sampler

/-- Where a task is once it has begun. -/
def Progress.woken (interval now : Nat) : Progress → Progress
  | .fresh => if interval = 0 then .ended else .waiting now
  | progress => progress

namespace Sampler

theorem progress?_awake (s : Sampler) (id : DeviceId) :
    s.awake.progress? id = (s.progress? id).map (Progress.woken s.intervalMs s.now) := by
  rw [progress?, progress?, awake, Table.get?_map, Option.map_map, Option.map_map]
  refine congrArg (Option.map · _) (funext fun task => ?_)
  rw [Function.comp_apply, Function.comp_apply, Task.wake]
  cases hprogress : task.progress with
  | fresh =>
    rw [if_neg (not_not_intro rfl), Progress.woken]
    split <;> rfl
  | waiting due => simp [hprogress, Progress.woken]
  | ended => simp [hprogress, Progress.woken]

theorem isShutDown_advance (w : Surroundings σ) (s : Sampler) (ms : Nat) (state : σ) :
    (s.advance w ms state).1.isShutDown = s.isShutDown :=
  run_induction (P := fun s' _ => s'.isShutDown = s.isShutDown) (s := s.awake) (fun _ _ _ h => h) rfl

theorem intervalMs_advance (w : Surroundings σ) (s : Sampler) (ms : Nat) (state : σ) :
    (s.advance w ms state).1.intervalMs = s.intervalMs :=
  run_induction (P := fun s' _ => s'.intervalMs = s.intervalMs) (s := s.awake) (fun _ _ _ h => h) rfl

theorem Timely.awake (h : s.Timely) : s.awake.Timely := by
  intro id due hdue
  rw [progress?_awake] at hdue
  obtain ⟨progress, hprogress, hwoken⟩ := Option.map_eq_some_iff.mp hdue
  cases progress with
  | fresh =>
    rw [Progress.woken] at hwoken
    split at hwoken
    · cases hwoken
    · rename_i hinterval
      cases hwoken
      exact ⟨hinterval, le_rfl⟩
  | waiting due' =>
    cases hwoken
    exact h id _ hprogress
  | ended => cases hwoken

/-- The number of ticks that are allowed for is enough. -/
theorem pending_awake_le (h : s.Timely) (ms : Nat) :
    s.awake.pending (s.now + ms) ≤ s.tickBound ms := by
  have hterm : ∀ n ∈ s.awake.tasks.values.map
      (fun task => dueTicks s.intervalMs (s.now + ms) task.progress), n ≤ ms / s.intervalMs + 1 := by
    intro n hn
    obtain ⟨task, htask, rfl⟩ := List.mem_map.mp hn
    obtain ⟨id, hget⟩ := Table.exists_get?_of_mem_values htask
    cases hprogress : task.progress with
    | fresh => exact Nat.zero_le _
    | ended => exact Nat.zero_le _
    | waiting due =>
      have hdue : s.now ≤ due :=
        (h.awake id due (Option.map_eq_some_iff.mpr ⟨task, hget, hprogress⟩)).2
      rw [dueTicks]
      split
      · exact Nat.succ_le_succ (Nat.div_le_div_right (by omega))
      · exact Nat.zero_le _
  refine (List.sum_le_card_nsmul _ _ hterm).trans_eq ?_
  rw [List.length_map, smul_eq_mul, tickBound, Table.size, Table.values, List.length_map, awake,
    Table.map, List.length_map]

/-- While time passes every task visits its device whenever it is due. -/
theorem punctual_advance (h : s.Timely) (w : Surroundings σ) (ms : Nat) (state : σ)
    (id : DeviceId) :
    Punctual s.intervalMs (s.now + ms) ((s.progress? id).map (Progress.woken s.intervalMs s.now))
      (visitsOf id (s.visitsDuring w ms state)) ((s.advance w ms state).1.progress? id) := by
  rw [← progress?_awake]
  exact punctual_run (s := s.awake) (fun id due hdue => (h.awake id due hdue).1)
    (pending_awake_le h ms) w state id

theorem Timely.advance (h : s.Timely) (w : Surroundings σ) (ms : Nat) (state : σ) :
    (s.advance w ms state).1.Timely := by
  intro id due hdue
  have hvisits := punctual_advance h w ms state id
  rw [hdue] at hvisits
  rw [intervalMs_advance]
  obtain ⟨due', hdue'⟩ := hvisits.exists_waiting
  rw [← progress?_awake] at hdue'
  exact ⟨(h.awake id due' hdue').1, hvisits.lt_of_waiting.le⟩

end Sampler

end GpuCluster.Sampling
