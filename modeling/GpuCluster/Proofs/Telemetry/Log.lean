import Mathlib
import GpuCluster.Proofs.Table
import GpuCluster.Proofs.Summary
import GpuCluster.Telemetry.Collector

/-!
# What a collector knows is read off its log

A collector is driven by registrations, removals, samples and clearings. The log lists them, each with
the change that it announced. An account of a device collects, from the log, the samples that were
taken in since the device was registered and the changes that were announced since then. The slot of a
device holds what the account says, cut down to the latest samples, so that every query of the collector
is answered by the account.
-/

namespace GpuCluster.Telemetry

/-- A call that may change a collector. -/
inductive Operation where
  | register (id : DeviceId)
  | remove (id : DeviceId)
  | record (sample : Sample Float)
  | clear

/-- An operation and the change that it announced. -/
structure Entry where
  operation : Operation
  announced : Option Change

namespace Collector

/-- A sample that is refused changes nothing. -/
def perform (c : Collector) : Operation → Collector × Option Change
  | .register id => (c.register id, none)
  | .remove id => (c.remove id, none)
  | .record sample => (c.record sample).toOption.getD (c, none)
  | .clear => (c.clear, none)

/-- Performs operations in order and keeps a log of them. -/
def run (c : Collector) (operations : List Operation) : Collector × List Entry :=
  operations.foldl
    (fun (c, log) operation =>
      ((c.perform operation).1, log ++ [⟨operation, (c.perform operation).2⟩]))
    (c, [])

theorem run_concat (c : Collector) (operations : List Operation) (operation : Operation) :
    c.run (operations ++ [operation]) =
      (((c.run operations).1.perform operation).1,
        (c.run operations).2 ++ [⟨operation, ((c.run operations).1.perform operation).2⟩]) := by
  rw [run, List.foldl_append]
  rfl

end Collector

/-! ## Accounts -/

/-- What was heard of a device since it was registered, and what was announced of it. -/
structure Account where
  samples : List (Sample Float)
  changes : List Change

namespace Account

def opened : Account := ⟨[], []⟩

def note (a : Account) (sample : Sample Float) (announced : Option Change) : Account :=
  ⟨a.samples ++ [sample], a.changes ++ announced.toList⟩

/-- The account of a device after one more entry, nothing while the device is not registered. -/
def follow (id : DeviceId) (account : Option Account) (entry : Entry) : Option Account :=
  match entry.operation with
  | .register id' => if id' = id then some (account.getD opened) else account
  | .remove id' => if id' = id then none else account
  | .record sample =>
    if sample.deviceId = id ∧ sample.fault?.isNone then
      account.map fun a => a.note sample entry.announced
    else account
  | .clear => none

def of? (id : DeviceId) (log : List Entry) : Option Account :=
  log.foldl (follow id) none

/-- The samples of a device since it was registered. -/
def samplesOf (id : DeviceId) (log : List Entry) : List (Sample Float) :=
  ((of? id log).map (·.samples)).getD []

theorem of?_concat (id : DeviceId) (log : List Entry) (entry : Entry) :
    of? id (log ++ [entry]) = follow id (of? id log) entry := by
  rw [of?, List.foldl_append]
  rfl

end Account

/-! ## Slots -/

section Slot

variable {slot : Slot} {capacity : Nat} {id : DeviceId} {a : Account} {sample : Sample Float}

theorem Change.sample_since (last : Option (Sample Float)) (sample : Sample Float) :
    (Change.since last sample).sample = sample := by
  cases last <;> rfl

theorem Slot.change_record (slot : Slot) (t : ChangeThresholds) (sample : Sample Float) :
    (slot.record t sample).2 =
      if (Change.since slot.announced sample).isNotable t then
        some (Change.since slot.announced sample)
      else none := by
  rw [record]
  split <;> rfl

theorem Slot.announced_record (slot : Slot) (t : ChangeThresholds) (sample : Sample Float) :
    (slot.record t sample).1.announced =
      ((slot.record t sample).2.map (·.sample)).or slot.announced := by
  rw [record]
  dsimp only
  split
  · rw [Option.map_some, Change.sample_since, Option.some_or]
  · rw [Option.map_none, Option.none_or]

/-- A slot holds the account of a device, cut down to the latest samples. -/
structure Slot.Holds (slot : Slot) (capacity : Nat) (id : DeviceId) (a : Account) : Prop where
  owned : ∀ sample ∈ a.samples, sample.deviceId = id
  valid : ∀ sample ∈ a.samples, sample.fault? = none
  current_eq : slot.current = a.samples.getLast?
  capacity_eq : slot.history.capacity = capacity
  history_eq : slot.history.toList = a.samples.drop (a.samples.length - capacity)
  announced_eq : slot.announced = a.changes.getLast?.map (·.sample)

theorem Slot.holds_ofCapacity (capacity : Nat) (id : DeviceId) :
    (Slot.ofCapacity capacity).Holds (max 1 capacity) id .opened where
  owned _ h := by cases h
  valid _ h := by cases h
  current_eq := rfl
  capacity_eq := Window.capacity_ofCapacity capacity
  history_eq := (List.drop_nil).symm
  announced_eq := rfl

/-- Dropping the oldest entries before or after a push leaves the same latest ones. -/
theorem drop_concat_drop {α : Type} (l : List α) (x : α) (capacity : Nat) :
    (l.drop (l.length - capacity) ++ [x]).drop
        ((l.drop (l.length - capacity)).length + 1 - capacity) =
      (l ++ [x]).drop ((l ++ [x]).length - capacity) := by
  rw [← List.drop_append_of_le_length (Nat.sub_le _ _), List.drop_drop, List.length_drop,
    List.length_append, List.length_singleton]
  congr 1
  omega

theorem Slot.Holds.record (h : slot.Holds capacity id a) (t : ChangeThresholds)
    (hid : sample.deviceId = id) (hvalid : sample.fault? = none) :
    (slot.record t sample).1.Holds capacity id (a.note sample (slot.record t sample).2) where
  owned sample' hmem := by
    rcases List.mem_append.mp hmem with hmem | hmem
    · exact h.owned sample' hmem
    · rw [List.mem_singleton.mp hmem, hid]
  valid sample' hmem := by
    rcases List.mem_append.mp hmem with hmem | hmem
    · exact h.valid sample' hmem
    · rw [List.mem_singleton.mp hmem, hvalid]
  current_eq := by
    rw [Slot.current_record, Account.note, List.getLast?_concat]
  capacity_eq := by
    rw [Slot.history_record, Window.capacity_push, h.capacity_eq]
  history_eq := by
    rw [Slot.history_record, Window.toList_push, h.capacity_eq, h.history_eq]
    exact drop_concat_drop a.samples sample capacity
  announced_eq := by
    rw [Slot.announced_record, h.announced_eq, Account.note, List.getLast?_append]
    cases (slot.record t sample).2 <;> simp

end Slot

/-! ## Collectors -/

namespace Collector

variable {c : Collector} {p : TelemetryPolicy} {log : List Entry} {id : DeviceId}
  {sample : Sample Float}

/-- The collector that has taken in a sample of a device with the given slot. -/
def taken (c : Collector) (sample : Sample Float) (slot : Slot) : Collector :=
  { c with
    slots := c.slots.insert sample.deviceId (slot.record c.thresholds sample).1
    changes := c.changes.sendAll (slot.record c.thresholds sample).2.toList }

theorem record_cases (c : Collector) (sample : Sample Float) :
    (c.slots.get? sample.deviceId = none ∧
      c.record sample = .error (.unknownDevice sample.deviceId)) ∨
    (∃ slot fault, c.slots.get? sample.deviceId = some slot ∧ sample.fault? = some fault ∧
      c.record sample = .error (.faulty fault)) ∨
    (∃ slot, c.slots.get? sample.deviceId = some slot ∧ sample.fault? = none ∧
      c.record sample = .ok (c.taken sample slot, (slot.record c.thresholds sample).2)) := by
  rw [record]
  cases c.slots.get? sample.deviceId with
  | none => exact Or.inl ⟨rfl, rfl⟩
  | some slot =>
    cases sample.fault? with
    | some fault => exact Or.inr (Or.inl ⟨slot, fault, rfl, rfl, rfl⟩)
    | none => exact Or.inr (Or.inr ⟨slot, rfl, rfl, rfl⟩)

/-- A collector holds what its log says. -/
structure Keeps (c : Collector) (p : TelemetryPolicy) (log : List Entry) : Prop where
  capacity_eq : c.capacity = max 1 p.historyCapacity
  thresholds_eq : c.thresholds = p.thresholds
  slots_rel : ∀ id,
    Option.Rel (fun slot a => slot.Holds c.capacity id a) (c.slots.get? id) (Account.of? id log)
  sent_eq : c.changes.sent = log.filterMap Entry.announced

theorem keeps_start (p : TelemetryPolicy) : (start p).Keeps p [] where
  capacity_eq := max_comm _ _
  thresholds_eq := rfl
  slots_rel _ := .none
  sent_eq := rfl

namespace Keeps

theorem get?_eq_none_iff (h : c.Keeps p log) :
    c.slots.get? id = none ↔ Account.of? id log = none := by
  have hrel := h.slots_rel id
  generalize c.slots.get? id = slot? at hrel ⊢
  generalize Account.of? id log = account? at hrel ⊢
  cases hrel <;> simp

theorem exists_account (h : c.Keeps p log) {slot : Slot} (hslot : c.slots.get? id = some slot) :
    ∃ a, Account.of? id log = some a ∧ slot.Holds c.capacity id a := by
  have hrel := h.slots_rel id
  rw [hslot] at hrel
  generalize Account.of? id log = account? at hrel ⊢
  cases hrel with
  | some hholds => exact ⟨_, rfl, hholds⟩

theorem sent_eq_concat (h : c.Keeps p log) (operation : Operation) :
    c.changes.sent = List.filterMap Entry.announced (log ++ [⟨operation, none⟩]) := by
  rw [h.sent_eq, List.filterMap_append]
  exact (List.append_nil _).symm

theorem register (h : c.Keeps p log) (id : DeviceId) :
    (c.register id).Keeps p (log ++ [⟨.register id, none⟩]) := by
  have hsent := h.sent_eq_concat (.register id)
  rw [Collector.register]
  split
  · rename_i hid
    refine ⟨h.capacity_eq, h.thresholds_eq, fun id' => ?_, hsent⟩
    obtain ⟨slot, hslot⟩ := Table.mem_iff_get?.mp hid
    obtain ⟨a, ha, -⟩ := h.exists_account hslot
    rw [Account.of?_concat, Account.follow]
    dsimp only
    split
    · -- The account that is open goes on.
      rename_i heq
      subst heq
      rw [ha, Option.getD_some, ← ha]
      exact h.slots_rel id
    · exact h.slots_rel id'
  · rename_i hid
    have hnone : c.slots.get? id = none := Table.get?_eq_none_iff.mpr hid
    refine ⟨h.capacity_eq, h.thresholds_eq, fun id' => ?_, hsent⟩
    rw [Table.get?_insert, Account.of?_concat, Account.follow]
    dsimp only
    split
    · rename_i heq
      subst heq
      rw [h.get?_eq_none_iff.mp hnone, Option.getD_none]
      have hholds := Slot.holds_ofCapacity c.capacity id
      have hcapacity : max 1 c.capacity = c.capacity := by
        rw [h.capacity_eq, ← max_assoc, max_self]
      rw [hcapacity] at hholds
      exact .some hholds
    · exact h.slots_rel id'

theorem remove (h : c.Keeps p log) (id : DeviceId) :
    (c.remove id).Keeps p (log ++ [⟨.remove id, none⟩]) := by
  refine ⟨h.capacity_eq, h.thresholds_eq, fun id' => ?_, h.sent_eq_concat _⟩
  rw [Collector.remove, Table.get?_erase, Account.of?_concat, Account.follow]
  dsimp only
  split
  · exact .none
  · exact h.slots_rel id'

theorem clear (h : c.Keeps p log) : c.clear.Keeps p (log ++ [⟨.clear, none⟩]) := by
  refine ⟨h.capacity_eq, h.thresholds_eq, fun id' => ?_, h.sent_eq_concat _⟩
  rw [Account.of?_concat]
  exact .none

theorem taken (h : c.Keeps p log) {slot : Slot} (hslot : c.slots.get? sample.deviceId = some slot)
    (hvalid : sample.fault? = none) :
    (c.taken sample slot).Keeps p
      (log ++ [⟨.record sample, (slot.record c.thresholds sample).2⟩]) := by
  obtain ⟨a, ha, hholds⟩ := h.exists_account hslot
  refine ⟨h.capacity_eq, h.thresholds_eq, fun id => ?_, ?_⟩
  · rw [Collector.taken, Table.get?_insert, Account.of?_concat, Account.follow]
    dsimp only
    by_cases hid : sample.deviceId = id
    · subst hid
      rw [if_pos rfl, if_pos ⟨rfl, by rw [hvalid]; rfl⟩, ha, Option.map_some]
      exact .some (hholds.record c.thresholds rfl hvalid)
    · rw [if_neg hid, if_neg fun hand => hid hand.1]
      exact h.slots_rel id
  · rw [Collector.taken, Channel.sendAll, h.sent_eq, List.filterMap_append]
    cases (slot.record c.thresholds sample).2 <;> rfl

theorem refused (h : c.Keeps p log)
    (hrefused : Account.of? sample.deviceId log = none ∨ sample.fault? ≠ none) :
    c.Keeps p (log ++ [⟨.record sample, none⟩]) := by
  refine ⟨h.capacity_eq, h.thresholds_eq, fun id => ?_, h.sent_eq_concat _⟩
  rw [Account.of?_concat, Account.follow]
  dsimp only
  split
  · rename_i hand
    obtain ⟨rfl, hvalid⟩ := hand
    -- A valid sample is refused only if there is no account to note it in.
    have hnone := hrefused.resolve_right (not_not.mpr (Option.isNone_iff_eq_none.mp hvalid))
    have hrel := h.slots_rel sample.deviceId
    rw [hnone] at hrel ⊢
    exact hrel
  · exact h.slots_rel id

theorem perform (h : c.Keeps p log) (operation : Operation) :
    (c.perform operation).1.Keeps p (log ++ [⟨operation, (c.perform operation).2⟩]) := by
  cases operation with
  | register id => exact h.register id
  | remove id => exact h.remove id
  | record sample =>
    rw [Collector.perform]
    obtain ⟨hslot, hrecord⟩ | ⟨slot, fault, hslot, hfault, hrecord⟩ | ⟨slot, hslot, hvalid, hrecord⟩ :=
      c.record_cases sample
    · rw [hrecord]
      exact h.refused (Or.inl (h.get?_eq_none_iff.mp hslot))
    · rw [hrecord]
      exact h.refused (Or.inr (by rw [hfault]; exact Option.some_ne_none _))
    · rw [hrecord]
      exact h.taken hslot hvalid
  | clear => exact h.clear

end Keeps

theorem keeps_run (p : TelemetryPolicy) (operations : List Operation) :
    ((start p).run operations).1.Keeps p ((start p).run operations).2 := by
  -- The log grows at its end, and so the last operation is taken off first.
  induction operations using List.reverseRecOn with
  | nil => exact keeps_start p
  | append_singleton operations operation ih =>
    rw [run_concat]
    exact ih.perform operation

/-! ## Queries -/

/-- The queries about one device are answered from the samples of its account. -/
structure Shows (c : Collector) (capacity : Nat) (id : DeviceId) (samples : List (Sample Float)) :
    Prop where
  current : c.current? id = samples.getLast?
  history : c.history id <:+ samples
  length_history : (c.history id).length = min samples.length (max 1 capacity)
  summary_eq_none_iff : c.summary? id = none ↔ samples = []
  summary_covers : ∀ summary, c.summary? id = some summary → summary.Covers id (c.history id)

/-- The answers about a device are the same for two collectors. -/
structure SameAnswers (c c' : Collector) (id : DeviceId) : Prop where
  current : c'.current? id = c.current? id
  history : c'.history id = c.history id
  summary : c'.summary? id = c.summary? id
  mem_currentAll : ∀ sample, sample.deviceId = id → (sample ∈ c'.currentAll ↔ sample ∈ c.currentAll)

/-- An operation on another device, or a sample that is refused. -/
def Spares (c : Collector) (id : DeviceId) : Operation → Prop
  | .register id' => id' ≠ id
  | .remove id' => id' ≠ id
  | .record sample => sample.deviceId ≠ id ∨ ∃ refusal, c.record sample = .error refusal
  | .clear => False

theorem Keeps.shows (h : c.Keeps p log) (id : DeviceId) :
    c.Shows p.historyCapacity id (Account.samplesOf id log) := by
  rw [Account.samplesOf]
  cases hslot : c.slots.get? id with
  | none =>
    rw [h.get?_eq_none_iff.mp hslot]
    constructor <;> simp [current?, Collector.history, summary?, hslot]
  | some slot =>
    obtain ⟨a, ha, hholds⟩ := h.exists_account hslot
    have hhistory : c.history id = slot.history.toList := by rw [Collector.history, hslot]
    have hsummary : c.summary? id = Summary.ofWindow? id slot.history := by
      rw [summary?, hslot, Option.bind_some]
    have hcapacity := h.capacity_eq
    rw [ha, Option.map_some, Option.getD_some]
    refine ⟨?_, ?_, ?_, ?_, ?_⟩
    · rw [current?, hslot]
      exact hholds.current_eq
    · rw [hhistory, hholds.history_eq]
      exact List.drop_suffix _ _
    · rw [hhistory, hholds.history_eq, List.length_drop]
      omega
    · rw [hsummary, Summary.ofWindow?_eq_none_iff, hholds.history_eq, List.drop_eq_nil_iff,
        ← List.length_eq_zero_iff]
      omega
    · intro summary hsome
      rw [hsummary] at hsome
      rw [hhistory]
      refine Summary.covers_ofWindow? hsome fun sample hmem => ?_
      rw [hholds.history_eq] at hmem
      exact hholds.valid sample (List.mem_of_mem_drop hmem)

theorem Keeps.deviceId_of_current (h : c.Keeps p log) {slot : Slot}
    (hslot : c.slots.get? id = some slot) (hcurrent : slot.current = some sample) :
    sample.deviceId = id := by
  obtain ⟨a, -, hholds⟩ := h.exists_account hslot
  rw [hholds.current_eq] at hcurrent
  exact hholds.owned sample (List.mem_of_getLast? hcurrent)

theorem Keeps.mem_currentAll_iff (h : c.Keeps p log) :
    sample ∈ c.currentAll ↔ c.current? sample.deviceId = some sample := by
  rw [currentAll, Table.values, List.mem_filterMap, current?, Option.bind_eq_some_iff]
  constructor
  · rintro ⟨slot, hmem, hcurrent⟩
    obtain ⟨⟨id, slot⟩, hentry, rfl⟩ := List.mem_map.mp hmem
    have hslot := Table.get?_eq_some_iff.mpr hentry
    exact ⟨slot, h.deviceId_of_current hslot hcurrent ▸ hslot, hcurrent⟩
  · rintro ⟨slot, hslot, hcurrent⟩
    exact ⟨slot, List.mem_map_of_mem (Table.get?_eq_some_iff.mp hslot), hcurrent⟩

theorem Keeps.pairwise_currentAll (h : c.Keeps p log) :
    c.currentAll.Pairwise fun a b => compare a.deviceId b.deviceId = .lt := by
  have hmap : c.currentAll = c.slots.entries.filterMap fun e => e.2.current :=
    List.filterMap_map
  rw [hmap, List.pairwise_filterMap]
  refine c.slots.sorted.imp_of_mem fun {e e'} he he' hlt a ha b hb => ?_
  rw [h.deviceId_of_current (Table.get?_eq_some_iff.mpr he) ha,
    h.deviceId_of_current (Table.get?_eq_some_iff.mpr he') hb]
  exact hlt

theorem Keeps.sameAnswers (h : c.Keeps p log) {c' : Collector} {log' : List Entry}
    (h' : c'.Keeps p log') (hslot : c'.slots.get? id = c.slots.get? id) :
    c.SameAnswers c' id where
  current := by rw [current?, current?, hslot]
  history := by rw [Collector.history, Collector.history, hslot]
  summary := by rw [summary?, summary?, hslot]
  mem_currentAll sample hid := by
    rw [h.mem_currentAll_iff, h'.mem_currentAll_iff, current?, current?, hid, hslot]

theorem get?_perform_of_spares {operation : Operation} (h : c.Spares id operation) :
    (c.perform operation).1.slots.get? id = c.slots.get? id := by
  cases operation with
  | register id' =>
    rw [perform, Collector.register]
    split
    · rfl
    · exact Table.get?_insert_of_ne _ _ h
  | remove id' =>
    rw [perform, Collector.remove, Table.get?_erase, if_neg h]
  | record sample =>
    rw [perform]
    obtain ⟨-, hrecord⟩ | ⟨slot, fault, -, -, hrecord⟩ | ⟨slot, -, -, hrecord⟩ :=
      c.record_cases sample
    · rw [hrecord]
      rfl
    · rw [hrecord]
      rfl
    · obtain hne | ⟨refusal, hrefused⟩ := h
      · rw [hrecord]
        exact Table.get?_insert_of_ne _ _ hne
      · cases hrecord.symm.trans hrefused
  | clear => exact h.elim

theorem Keeps.isRegistered_eq (h : c.Keeps p log) (id : DeviceId) :
    c.isRegistered id = (Account.of? id log).isSome := by
  rw [isRegistered, Table.contains]
  cases hslot : c.slots.get? id with
  | none =>
    rw [h.get?_eq_none_iff.mp hslot]
    rfl
  | some slot =>
    obtain ⟨a, ha, -⟩ := h.exists_account hslot
    rw [ha]
    rfl

theorem Keeps.accepts_iff (h : c.Keeps p log) (sample : Sample Float) :
    (∃ c' change, c.record sample = .ok (c', change)) ↔
      (Account.of? sample.deviceId log).isSome ∧ sample.fault? = none := by
  obtain ⟨hslot, hrecord⟩ | ⟨slot, fault, -, hfault, hrecord⟩ | ⟨slot, hslot, hvalid, hrecord⟩ :=
    c.record_cases sample
  · simp [hrecord, h.get?_eq_none_iff.mp hslot]
  · simp [hrecord, hfault]
  · obtain ⟨a, ha, -⟩ := h.exists_account hslot
    simp [hrecord, ha, hvalid]

theorem operations_run (c : Collector) (operations : List Operation) :
    (c.run operations).2.map (·.operation) = operations := by
  induction operations using List.reverseRecOn with
  | nil => rfl
  | append_singleton operations operation ih =>
    rw [run_concat, List.map_append, ih]
    rfl

/--
At every point of every run a collector answers as its log says: it takes in the valid samples of
registered devices, it shows the latest of those that came since a registration, and neither a sample
that it refuses nor an operation on another device changes an answer.
-/
theorem answers_follow_log (p : TelemetryPolicy) (operations : List Operation) :
    let c := ((start p).run operations).1
    let log := ((start p).run operations).2
    log.map (·.operation) = operations ∧
    (∀ id, c.isRegistered id = (Account.of? id log).isSome) ∧
    (∀ sample, (∃ c' change, c.record sample = .ok (c', change)) ↔
      (Account.of? sample.deviceId log).isSome ∧ sample.fault? = none) ∧
    (∀ id, c.Shows p.historyCapacity id (Account.samplesOf id log)) ∧
    (c.currentAll.Pairwise fun a b => compare a.deviceId b.deviceId = .lt) ∧
    (∀ sample, sample ∈ c.currentAll ↔
      ∃ id, (Account.samplesOf id log).getLast? = some sample) ∧
    ∀ operation id, c.Spares id operation → c.SameAnswers (c.perform operation).1 id := by
  have h := keeps_run p operations
  refine ⟨operations_run _ _, h.isRegistered_eq, h.accepts_iff, h.shows, h.pairwise_currentAll,
    fun sample => ?_, fun operation id hspares => ?_⟩
  · rw [h.mem_currentAll_iff, (h.shows _).current]
    constructor
    · intro hlast
      exact ⟨_, hlast⟩
    · rintro ⟨id, hlast⟩
      rw [← (h.shows id).current, current?, Option.bind_eq_some_iff] at hlast
      obtain ⟨slot, hslot, hcurrent⟩ := hlast
      rw [← (h.shows _).current, current?, h.deviceId_of_current hslot hcurrent, hslot]
      exact hcurrent
  · exact h.sameAnswers (h.perform operation) (get?_perform_of_spares hspares)

end Collector

end GpuCluster.Telemetry
