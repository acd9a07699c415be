import Mathlib
import GpuCluster.Proofs.Session.Ownership

/-!
# Permits and the counts of executors

A permit outlives the executor that issued it, and shares with it a counter that is one higher for as
long as the permit is held. Executors are numbered and no number is used twice, so that a permit meets
its issuer or nobody: the executor that follows a device later has another number.
-/

namespace GpuCluster.Thermal

variable {m m' : Monitor} {id : DeviceId} {n : Nat}

namespace Monitor

def inFlight? (m : Monitor) (id : DeviceId) : Option Nat :=
  (m.executors.get? id).map (·.inFlight)

/-! ## What becomes of executors -/

/--
The executors of `m'` are executors of `m`, and `change` says what becomes of the count of an executor,
given its number.
-/
structure Follows (change : Nat → Nat → Nat) (m m' : Monitor) : Prop where
  nextSerial : m'.nextSerial = m.nextSerial
  origin : ∀ id e', m'.executors.get? id = some e' → ∃ e, m.executors.get? id = some e ∧
    e'.deviceId = e.deviceId ∧ e'.serial = e.serial ∧ e'.inFlight = change e.serial e.inFlight

def keep (_ count : Nat) : Nat := count

def increment (serial n count : Nat) : Nat := if n = serial then count + 1 else count

def decrement (serial n count : Nat) : Nat := if n = serial then count - 1 else count

/-- Executors are kept under their devices, with different numbers that have been used. -/
structure Numbered (m : Monitor) : Prop where
  owned : m.Owned
  serial_lt : ∀ id e, m.executors.get? id = some e → e.serial < m.nextSerial
  serial_inj : ∀ id id' e e', m.executors.get? id = some e → m.executors.get? id' = some e' →
    e.serial = e'.serial → id = id'

/-- The executor with this number was made and is no longer kept. -/
structure Retired (n : Nat) (m : Monitor) : Prop where
  lt : n < m.nextSerial
  serial_ne : ∀ id e, m.executors.get? id = some e → e.serial ≠ n

theorem Follows.of_get? (hnext : m'.nextSerial = m.nextSerial)
    (hget : ∀ id e, m'.executors.get? id = some e → m.executors.get? id = some e) :
    Follows keep m m' :=
  ⟨hnext, fun id e' he' => ⟨e', hget id e' he', rfl, rfl, rfl⟩⟩

theorem follows_remove (m : Monitor) (id : DeviceId) : Follows keep m (m.remove id) :=
  .of_get? rfl fun _ _ he => (Table.get?_erase_eq_some_iff.mp he).2

theorem follows_clear (m : Monitor) : Follows keep m m.clear :=
  .of_get? rfl fun _ _ he => nomatch he

/-- An executor gives way to a later stage of itself. -/
theorem Follows.insert {change : Nat → Nat → Nat} {before e : Executor}
    (hbefore : m.executors.get? id = some before) (hdevice : e.deviceId = before.deviceId)
    (hserial : e.serial = before.serial) (hcount : e.inFlight = change before.serial before.inFlight)
    (hothers : ∀ id' e', id' ≠ id → m.executors.get? id' = some e' →
      change e'.serial e'.inFlight = e'.inFlight)
    (hnext : m'.nextSerial = m.nextSerial) (hexecutors : m'.executors = m.executors.insert id e) :
    Follows change m m' := by
  refine ⟨hnext, fun id' e' he' => ?_⟩
  rw [hexecutors, Table.get?_insert_eq_some_iff] at he'
  obtain ⟨rfl, rfl⟩ | ⟨hne, hold⟩ := he'
  · exact ⟨before, hbefore, hdevice, hserial, hcount⟩
  · exact ⟨e', hold, rfl, rfl, (hothers id' e' hne hold).symm⟩

theorem follows_observe {sample : Sample Float} {transition : Option Transition}
    (h : m.observe sample = some (m', transition)) : Follows keep m m' := by
  obtain ⟨e, he, rfl⟩ := observe_eq_some h
  exact .insert (e := (e.observe (readingOf sample)).1) he rfl rfl rfl (fun _ _ _ _ => rfl) rfl rfl

theorem Numbered.follows_beginCompute (hm : m.Numbered) {permit : Permit}
    (h : m.beginCompute id = .ok (m', permit)) :
    Follows (increment permit.issuer) m m' := by
  obtain ⟨e, he, rfl, rfl⟩ := beginCompute_eq_ok h
  refine .insert (e := { e with inFlight := e.inFlight + 1 }) he rfl rfl (if_pos rfl).symm
    (fun id' e' hne he' => ?_) rfl rfl
  exact if_neg fun heq => hne (hm.serial_inj id' id e' e he' he heq)

theorem follows_giveBack {permit : Permit} (h : ∀ id e, m.executors.get? id = some e →
    e.serial = permit.issuer → id = permit.deviceId) :
    Follows (decrement permit.issuer) m (m.giveBack permit) := by
  refine ⟨rfl, fun id e' he' => ?_⟩
  rw [giveBack, Table.get?_modify] at he'
  split at he'
  · obtain ⟨e, he, rfl⟩ := Option.map_eq_some_iff.mp he'
    refine ⟨e, he, ?_⟩
    rw [Executor.giveBack, decrement]
    obtain hissuer | hissuer := eq_or_ne permit.issuer e.serial
    · rw [if_pos hissuer, if_pos hissuer.symm]
      exact ⟨rfl, rfl, rfl⟩
    · rw [if_neg hissuer, if_neg hissuer.symm]
      exact ⟨rfl, rfl, rfl⟩
  · rename_i hne
    exact ⟨e', he', rfl, rfl, (if_neg fun hserial => hne (h id e' he' hserial).symm).symm⟩

/-! ## Numbers -/

theorem numbered_start (policy : ThermalPolicy) (eventBuffer firstSerial : Nat) :
    (start policy eventBuffer firstSerial).Numbered where
  owned := owned_start policy eventBuffer firstSerial
  serial_lt _ _ he := nomatch he
  serial_inj _ _ _ _ he := nomatch he

theorem Numbered.of_follows (h : m.Numbered) {change : Nat → Nat → Nat}
    (hfollows : Follows change m m') : m'.Numbered where
  owned id e' he' := by
    obtain ⟨e, he, hdevice, -⟩ := hfollows.origin id e' he'
    exact hdevice.trans (h.owned id e he)
  serial_lt id e' he' := by
    obtain ⟨e, he, -, hserial, -⟩ := hfollows.origin id e' he'
    rw [hserial, hfollows.nextSerial]
    exact h.serial_lt id e he
  serial_inj id₁ id₂ e₁' e₂' he₁' he₂' heq := by
    obtain ⟨e₁, he₁, -, hserial₁, -⟩ := hfollows.origin id₁ e₁' he₁'
    obtain ⟨e₂, he₂, -, hserial₂, -⟩ := hfollows.origin id₂ e₂' he₂'
    exact h.serial_inj id₁ id₂ e₁ e₂ he₁ he₂ (hserial₁.symm.trans (heq.trans hserial₂))

theorem Numbered.register (h : m.Numbered) (id : DeviceId) (calibration : Calibration Float) :
    (m.register id calibration).Numbered := by
  have howned := h.owned.register id calibration
  obtain heq | ⟨-, heq⟩ := m.register_cases id calibration
  · rwa [heq]
  · rw [heq] at howned ⊢
    refine ⟨howned, ?_, ?_⟩
    · intro id' e he
      obtain ⟨-, rfl⟩ | ⟨-, hold⟩ := Table.get?_insert_eq_some_iff.mp he
      · exact Nat.lt_succ_self _
      · exact Nat.lt_succ_of_lt (h.serial_lt id' e hold)
    · intro id₁ id₂ e₁ e₂ he₁ he₂ hserial
      -- The new number is above those of the executors there were.
      obtain ⟨rfl, rfl⟩ | ⟨-, hold₁⟩ := Table.get?_insert_eq_some_iff.mp he₁
      all_goals obtain ⟨rfl, rfl⟩ | ⟨-, hold₂⟩ := Table.get?_insert_eq_some_iff.mp he₂
      · rfl
      · exact absurd hserial (h.serial_lt id₂ e₂ hold₂).ne'
      · exact absurd hserial (h.serial_lt id₁ e₁ hold₁).ne
      · exact h.serial_inj id₁ id₂ e₁ e₂ hold₁ hold₂ hserial

theorem Retired.of_follows (h : Retired n m) {change : Nat → Nat → Nat}
    (hfollows : Follows change m m') : Retired n m' where
  lt := hfollows.nextSerial ▸ h.lt
  serial_ne id e' he' := by
    obtain ⟨e, he, -, hserial, -⟩ := hfollows.origin id e' he'
    exact hserial ▸ h.serial_ne id e he

theorem Retired.register (h : Retired n m) (id : DeviceId) (calibration : Calibration Float) :
    Retired n (m.register id calibration) := by
  obtain heq | ⟨-, heq⟩ := m.register_cases id calibration
  · rwa [heq]
  · rw [heq]
    refine ⟨Nat.lt_succ_of_lt h.lt, fun id' e he => ?_⟩
    obtain ⟨-, rfl⟩ | ⟨-, hold⟩ := Table.get?_insert_eq_some_iff.mp he
    · exact h.lt.ne'
    · exact h.serial_ne id' e hold

theorem Retired.giveBack_eq {permit : Permit} (h : Retired permit.issuer m) :
    m.giveBack permit = m := by
  have hsame : m.executors.modify permit.deviceId (·.giveBack permit) = m.executors := by
    refine Table.ext_get? fun id => ?_
    rw [Table.get?_modify]
    split
    · cases he : m.executors.get? id with
      | none => rfl
      | some e => exact congrArg some (if_neg (h.serial_ne id e he).symm)
    · rfl
  rw [giveBack, hsame]

end Monitor

/-! ## Permits that are held -/

/-- A monitor and the permits that it has issued. -/
structure Ledger where
  monitor : Monitor
  /-- The permits that have not been dropped. -/
  held : List Permit
  /-- What each executor shares with its permits, given its number. -/
  counter : Nat → Nat

namespace Ledger

/-- What happens to a monitor and to its permits. -/
inductive Action where
  | register (id : DeviceId) (calibration : Calibration Float)
  | remove (id : DeviceId)
  | clear
  | observe (sample : Sample Float)
  | beginCompute (id : DeviceId)
  /-- Drops the permit at a place among those that are held. -/
  | drop (place : Nat)

def start (policy : ThermalPolicy) (eventBuffer firstSerial : Nat) : Ledger :=
  ⟨.start policy eventBuffer firstSerial, [], fun _ => 0⟩

def perform (l : Ledger) : Action → Ledger
  | .register id calibration => { l with monitor := l.monitor.register id calibration }
  | .remove id => { l with monitor := l.monitor.remove id }
  | .clear => { l with monitor := l.monitor.clear }
  | .observe sample =>
    match l.monitor.observe sample with
    | none => l
    | some (monitor, _) => { l with monitor }
  | .beginCompute id =>
    match l.monitor.beginCompute id with
    | .error _ => l
    | .ok (monitor, permit) =>
      { monitor
        held := l.held ++ [permit]
        counter := fun n => Monitor.increment permit.issuer n (l.counter n) }
  | .drop place =>
    match l.held[place]? with
    | none => l
    | some permit =>
      { monitor := l.monitor.giveBack permit
        held := l.held.eraseIdx place
        counter := fun n => Monitor.decrement permit.issuer n (l.counter n) }

def run (l : Ledger) (actions : List Action) : Ledger := actions.foldl perform l

/-- How many permits of executor number `n` are held. -/
def heldOf (l : Ledger) (n : Nat) : Nat := l.held.countP fun permit => permit.issuer = n

/-- What the counts, the permits and the counters have to do with each other. -/
structure Balanced (l : Ledger) : Prop where
  numbered : l.monitor.Numbered
  counter_eq : ∀ n, l.counter n = l.heldOf n
  inFlight_eq : ∀ id e, l.monitor.executors.get? id = some e → e.inFlight = l.counter e.serial
  issuer_lt : ∀ permit ∈ l.held, permit.issuer < l.monitor.nextSerial
  issuer_at : ∀ permit ∈ l.held, ∀ id e, l.monitor.executors.get? id = some e →
    e.serial = permit.issuer → id = permit.deviceId

variable {l l' : Ledger}

theorem balanced_start (policy : ThermalPolicy) (eventBuffer firstSerial : Nat) :
    (start policy eventBuffer firstSerial).Balanced where
  numbered := Monitor.numbered_start policy eventBuffer firstSerial
  counter_eq _ := rfl
  inFlight_eq _ _ he := nomatch he
  issuer_lt _ hp := nomatch hp
  issuer_at _ hp := nomatch hp

theorem Balanced.of_follows (h : l.Balanced) {change : Nat → Nat → Nat}
    (hfollows : Monitor.Follows change l.monitor l'.monitor)
    (hcounter : ∀ n, l'.counter n = change n (l.counter n))
    (hheld : ∀ n, l'.heldOf n = change n (l.heldOf n))
    (hissuer : ∀ permit ∈ l'.held, permit ∈ l.held ∨
      ∃ id e, l.monitor.executors.get? id = some e ∧ permit = ⟨e.deviceId, e.serial⟩) :
    l'.Balanced where
  numbered := h.numbered.of_follows hfollows
  counter_eq n := by rw [hcounter, hheld, h.counter_eq]
  inFlight_eq id e' he' := by
    obtain ⟨e, he, -, hserial, hcount⟩ := hfollows.origin id e' he'
    rw [hcount, hserial, hcounter, h.inFlight_eq id e he]
  issuer_lt permit hpermit := by
    rw [hfollows.nextSerial]
    obtain hold | ⟨id, e, he, rfl⟩ := hissuer permit hpermit
    · exact h.issuer_lt permit hold
    · exact h.numbered.serial_lt id e he
  issuer_at permit hpermit id e' he' hserial' := by
    obtain ⟨e, he, -, hserial, -⟩ := hfollows.origin id e' he'
    obtain hold | ⟨id₀, e₀, he₀, rfl⟩ := hissuer permit hpermit
    · exact h.issuer_at permit hold id e he (hserial.symm.trans hserial')
    · rw [h.numbered.owned id₀ e₀ he₀]
      exact h.numbered.serial_inj id id₀ e e₀ he he₀ (hserial.symm.trans hserial')

theorem Balanced.of_follows_keep (h : l.Balanced) {monitor : Monitor}
    (hfollows : Monitor.Follows Monitor.keep l.monitor monitor) : { l with monitor }.Balanced := by
  apply h.of_follows hfollows
  · exact fun _ => rfl
  · exact fun _ => rfl
  · exact fun _ hp => Or.inl hp

theorem Balanced.register (h : l.Balanced) (id : DeviceId) (calibration : Calibration Float) :
    (l.perform (.register id calibration)).Balanced := by
  have hnumbered := h.numbered.register id calibration
  rw [perform]
  obtain heq | ⟨-, heq⟩ := l.monitor.register_cases id calibration
  · rwa [heq]
  · rw [heq] at hnumbered ⊢
    refine ⟨hnumbered, h.counter_eq, ?_, ?_, ?_⟩
    · intro id' e he
      obtain ⟨-, rfl⟩ | ⟨-, hold⟩ := Table.get?_insert_eq_some_iff.mp he
      · -- No permit has the new number yet.
        have hnone : l.heldOf l.monitor.nextSerial = 0 :=
          List.countP_eq_zero.mpr fun permit hp heq =>
            (h.issuer_lt permit hp).ne (of_decide_eq_true heq)
        exact ((h.counter_eq _).trans hnone).symm
      · exact h.inFlight_eq id' e hold
    · intro permit hp
      exact Nat.lt_succ_of_lt (h.issuer_lt permit hp)
    · intro permit hp id' e he hserial
      obtain ⟨-, rfl⟩ | ⟨-, hold⟩ := Table.get?_insert_eq_some_iff.mp he
      · exact absurd hserial (h.issuer_lt permit hp).ne'
      · exact h.issuer_at permit hp id' e hold hserial

theorem Balanced.observe (h : l.Balanced) (sample : Sample Float) :
    (l.perform (.observe sample)).Balanced := by
  rw [perform]
  split
  · exact h
  · rename_i hobserve
    exact h.of_follows_keep (Monitor.follows_observe hobserve)

theorem Balanced.beginCompute (h : l.Balanced) (id : DeviceId) :
    (l.perform (.beginCompute id)).Balanced := by
  rw [perform]
  split
  · exact h
  · rename_i monitor permit hbegin
    refine h.of_follows (h.numbered.follows_beginCompute hbegin) (fun _ => rfl) (fun n => ?_) ?_
    · rw [heldOf, List.countP_append, List.countP_singleton, Monitor.increment]
      simp only [decide_eq_true_eq, eq_comm (a := n)]
      split_ifs <;> rfl
    · intro permit' hp
      obtain ⟨e, he, rfl, -⟩ := Monitor.beginCompute_eq_ok hbegin
      obtain hold | hnew := List.mem_append.mp hp
      · exact Or.inl hold
      · exact Or.inr ⟨id, e, he, List.mem_singleton.mp hnew⟩

theorem perform_drop {place : Nat} {permit : Permit} (h : l.held[place]? = some permit) :
    l.perform (.drop place) =
      { monitor := l.monitor.giveBack permit
        held := l.held.eraseIdx place
        counter := fun n => Monitor.decrement permit.issuer n (l.counter n) } := by
  rw [perform, h]

theorem heldOf_eq_of_getElem? {place : Nat} {permit : Permit} (h : l.held[place]? = some permit)
    (n : Nat) : l.heldOf n = (l.held.eraseIdx place).countP (fun permit => permit.issuer = n) +
      if n = permit.issuer then 1 else 0 := by
  obtain ⟨hlt, rfl⟩ := List.getElem?_eq_some_iff.mp h
  rw [heldOf, ← (List.getElem_cons_eraseIdx_perm hlt).countP_eq, List.countP_cons]
  simp only [decide_eq_true_eq, eq_comm (a := n)]

theorem Balanced.drop (h : l.Balanced) (place : Nat) : (l.perform (.drop place)).Balanced := by
  rw [perform]
  split
  · exact h
  · rename_i permit hplace
    have hmem : permit ∈ l.held := List.mem_of_getElem? hplace
    refine h.of_follows (Monitor.follows_giveBack (h.issuer_at permit hmem)) (fun _ => rfl)
      (fun n => ?_) fun _ hp => Or.inl (List.mem_of_mem_eraseIdx hp)
    rw [heldOf_eq_of_getElem? hplace, Monitor.decrement, heldOf]
    split_ifs <;> rfl

theorem Balanced.perform (h : l.Balanced) (action : Action) : (l.perform action).Balanced := by
  cases action with
  | register id calibration => exact h.register id calibration
  | remove id => exact h.of_follows_keep (l.monitor.follows_remove id)
  | clear => exact h.of_follows_keep l.monitor.follows_clear
  | observe sample => exact h.observe sample
  | beginCompute id => exact h.beginCompute id
  | drop place => exact h.drop place

theorem Balanced.run (h : l.Balanced) (actions : List Action) : (l.run actions).Balanced := by
  induction actions generalizing l with
  | nil => exact h
  | cons action rest ih => exact ih (h.perform action)

/-- Once retired, an executor never comes back. -/
theorem Balanced.retired_perform (h : l.Balanced) {n : Nat} (hn : Monitor.Retired n l.monitor)
    (action : Action) : Monitor.Retired n (l.perform action).monitor := by
  cases action with
  | register id calibration => exact hn.register id calibration
  | remove id => exact hn.of_follows (l.monitor.follows_remove id)
  | clear => exact hn.of_follows l.monitor.follows_clear
  | observe sample =>
    rw [Ledger.perform]
    split
    · exact hn
    · rename_i hobserve
      exact hn.of_follows (Monitor.follows_observe hobserve)
  | beginCompute id =>
    rw [Ledger.perform]
    split
    · exact hn
    · rename_i hbegin
      exact hn.of_follows (h.numbered.follows_beginCompute hbegin)
  | drop place =>
    rw [Ledger.perform]
    split
    · exact hn
    · rename_i permit hplace
      exact hn.of_follows
        (Monitor.follows_giveBack (h.issuer_at permit (List.mem_of_getElem? hplace)))

theorem Balanced.retired_run (h : l.Balanced) {n : Nat} (hn : Monitor.Retired n l.monitor)
    (actions : List Action) : Monitor.Retired n (l.run actions).monitor := by
  induction actions generalizing l with
  | nil => exact hn
  | cons action rest ih => exact ih (h.perform action) (h.retired_perform hn action)

theorem Balanced.retired_of_removal (h : l.Balanced) {permit : Permit} (hp : permit ∈ l.held)
    {removal : Action} (hremoval : removal = .remove permit.deviceId ∨ removal = .clear) :
    Monitor.Retired permit.issuer (l.perform removal).monitor := by
  obtain rfl | rfl := hremoval
  · refine ⟨h.issuer_lt permit hp, fun id e he hserial => ?_⟩
    obtain ⟨hne, hold⟩ := Table.get?_erase_eq_some_iff.mp he
    exact hne (h.issuer_at permit hp id e hold hserial)
  · exact ⟨h.issuer_lt permit hp, fun _ _ he => nomatch he⟩

theorem inFlight?_observe (l : Ledger) (sample : Sample Float) (id : DeviceId) :
    (l.perform (.observe sample)).monitor.inFlight? id = l.monitor.inFlight? id := by
  rw [perform]
  split
  · rfl
  · rename_i hobserve
    obtain ⟨e, he, rfl⟩ := Monitor.observe_eq_some hobserve
    rw [Monitor.inFlight?, Monitor.inFlight?, Table.get?_insert]
    split
    · rename_i hid
      rw [← hid, he]
      rfl
    · rfl

theorem perform_observe (l : Ledger) (sample : Sample Float) :
    (l.perform (.observe sample)).held = l.held ∧
      (l.perform (.observe sample)).counter = l.counter := by
  rw [perform]
  split <;> exact ⟨rfl, rfl⟩

theorem Balanced.counter_drop (h : l.Balanced) {place : Nat} {permit : Permit}
    (hplace : l.held[place]? = some permit) :
    (l.perform (.drop place)).counter permit.issuer + 1 = l.counter permit.issuer ∧
      ∀ n ≠ permit.issuer, (l.perform (.drop place)).counter n = l.counter n := by
  have hpositive : 0 < l.counter permit.issuer := by
    rw [h.counter_eq, heldOf_eq_of_getElem? hplace, if_pos rfl]
    exact Nat.succ_pos _
  rw [perform_drop hplace]
  refine ⟨?_, fun n hn => if_neg hn⟩
  exact (congrArg (· + 1) (if_pos rfl)).trans (Nat.sub_add_cancel hpositive)

/--
At every point of every run of a monitor: the count of an executor is the number of permits of its
number that are held, and no two executors have the same number. Samples change no count, and neither
does a request that is refused. A permit that is dropped takes one off the counter of its issuer, kept
or not, and that counter was above zero. A permit issued before the removal of its device finds nothing
to change whenever it is dropped after the removal, also when the device was registered again.
-/
theorem permits_accounted (policy : ThermalPolicy) (eventBuffer firstSerial : Nat)
    (actions : List Action) :
    let l := (start policy eventBuffer firstSerial).run actions
    (∀ id e, l.monitor.executors.get? id = some e →
      e.inFlight = l.heldOf e.serial ∧ e.inFlight = l.counter e.serial) ∧
    (∀ id id' e e', l.monitor.executors.get? id = some e →
      l.monitor.executors.get? id' = some e' → e.serial = e'.serial → id = id') ∧
    (∀ sample, (l.perform (.observe sample)).held = l.held ∧
      (l.perform (.observe sample)).counter = l.counter ∧
      ∀ id, (l.perform (.observe sample)).monitor.inFlight? id = l.monitor.inFlight? id) ∧
    (∀ id refusal, l.monitor.beginCompute id = .error refusal →
      l.perform (.beginCompute id) = l) ∧
    (∀ place permit, l.held[place]? = some permit →
      (l.perform (.drop place)).counter permit.issuer + 1 = l.counter permit.issuer ∧
      ∀ n ≠ permit.issuer, (l.perform (.drop place)).counter n = l.counter n) ∧
    ∀ permit ∈ l.held, ∀ removal, removal = .remove permit.deviceId ∨ removal = .clear →
      ∀ later place, (l.run (removal :: later)).held[place]? = some permit →
        ((l.run (removal :: later)).perform (.drop place)).monitor =
          (l.run (removal :: later)).monitor := by
  intro l
  have hl : l.Balanced := (balanced_start policy eventBuffer firstSerial).run actions
  refine ⟨?_, hl.numbered.serial_inj, ?_, ?_, ?_, ?_⟩
  · intro id e he
    exact ⟨(hl.inFlight_eq id e he).trans (hl.counter_eq _), hl.inFlight_eq id e he⟩
  · intro sample
    exact ⟨(l.perform_observe sample).1, (l.perform_observe sample).2, l.inFlight?_observe sample⟩
  · intro id refusal hrefused
    rw [perform, hrefused]
  · intro place permit hplace
    exact hl.counter_drop hplace
  · intro permit hp removal hremoval later place hplace
    have hretired : Monitor.Retired permit.issuer (l.run (removal :: later)).monitor :=
      (hl.perform removal).retired_run (hl.retired_of_removal hp hremoval) later
    rw [perform_drop hplace]
    exact hretired.giveBack_eq

/-- A permit of the first executor is dropped while the second one has a permit of its own. -/
theorem permits_accounted_of_reregistration :
    let l := (start {} 1 0).run [.register "gpu" .standard, .beginCompute "gpu"]
    let l' := l.run [.remove "gpu", .register "gpu" .standard, .beginCompute "gpu"]
    l.held = [⟨"gpu", 0⟩] ∧ l'.held = [⟨"gpu", 0⟩, ⟨"gpu", 1⟩] ∧
      l'.monitor.inFlight? "gpu" = some 1 ∧ (l'.perform (.drop 0)).monitor = l'.monitor := by
  intro l l'
  obtain ⟨-, -, -, -, -, hremoved⟩ :=
    permits_accounted {} 1 0 [.register "gpu" .standard, .beginCompute "gpu"]
  have hheld : (⟨"gpu", 0⟩ : Permit) ∈ l.held := by decide
  exact ⟨by decide, by decide, by decide,
    hremoved ⟨"gpu", 0⟩ hheld (.remove "gpu") (Or.inl rfl)
      [.register "gpu" .standard, .beginCompute "gpu"] 0 (by decide)⟩

end Ledger

end GpuCluster.Thermal
