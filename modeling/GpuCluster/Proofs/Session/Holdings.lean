import Mathlib
import GpuCluster.Proofs.Placement.Correctness
import GpuCluster.Proofs.Session.Changes
import GpuCluster.Proofs.Thermal.Execution

/-!
# Which assignments are stored

An assignment is stored from the moment at which its placement returns it, and ends when it is
released, when a device that holds one of its shards is removed, and when the session starts anew. A
placement that is under way is not ended when a device is removed, but it fails when it is completed,
unless the device is back by then.
-/

namespace GpuCluster.Session

/-- The event ends an assignment. -/
inductive Event.Ends (id : AssignmentId) (a : Placement.Assignment) : Event → Prop
  | started : Ends id a .started
  | released : Ends id a (.released id)
  | removed {shard : Nat} {d : DeviceId} (h : a.deviceFor? shard = some d) : Ends id a (.removed d)

/-- A placement has returned the assignment, and nothing has ended it since. -/
def Stands (log : List Event) (id : AssignmentId) (a : Placement.Assignment) : Prop :=
  (Event.placed id a).Lasts (Event.Ends id a) log

/-- An assignment has shards, and counts bytes for the devices that hold them and no others. -/
structure Accounted (a : Placement.Assignment) : Prop where
  mem_bytes_iff : ∀ d, d ∈ a.bytes ↔ ∃ shard, a.deviceFor? shard = some d
  nonempty : ∃ d, d ∈ a.bytes

/-- An assignment that is stored, or will be when its placement is completed. -/
def Outstanding (s : Session) (id : AssignmentId) (a : Placement.Assignment) : Prop :=
  s.assignments.get? id = some a ∨ ∃ era, s.pending.get? id = some ⟨era, .ok a⟩

variable {s t : Session} {log events : List Event} {id : AssignmentId} {a : Placement.Assignment}

theorem accounted_of_solve (h : Listed s) {r : Placement.Request}
    (hsolve : Placement.solve s.config.placement r s.pool = .ok a) : Accounted a := by
  obtain ⟨-, device, -, hfollows⟩ := Placement.exists_follows_of_solve h.nodup_pool hsolve
  have hn : r.sizes ≠ [] := by
    intro hnil
    simp [Placement.solve, hnil] at hsolve
  refine ⟨fun d => hfollows.mem_bytes_iff, ?_⟩
  have hzero := hfollows.placements ⟨0, List.length_pos_iff.mpr hn⟩
  exact ⟨_, hfollows.mem_bytes_iff.mpr ⟨0, hzero⟩⟩

/-- What is outstanding after a change was so before, or is solved on the pool of this moment. -/
theorem Change.of_outstanding (hc : Change s t events) (h : Outstanding t id a) :
    Outstanding s id a ∨
    (id = s.nextAssignment ∧ (∀ d, .sampled d ∉ events) ∧
      ∃ r, Placement.solve s.config.placement r s.pool = .ok a) := by
  cases hc with
  | same hsame =>
    rw [Outstanding, hsame.assignments, hsame.pending] at h
    exact Or.inl h
  | started hphase => exact Or.inl h
  | @admitted r outcome hready hsolve =>
    rcases h with hstored | ⟨era, hpending⟩
    · exact Or.inl (Or.inl hstored)
    · rcases Table.get?_insert_eq_some_iff.mp hpending with ⟨rfl, hnew⟩ | ⟨-, hold⟩
      · obtain ⟨-, rfl⟩ := PendingPlacement.mk.inj hnew
        exact Or.inr ⟨rfl, by simp, r, hsolve⟩
      · exact Or.inl (Or.inr ⟨era, hold⟩)
  | @placed r a' hready hsolve =>
    rcases h with hstored | hpending
    · rcases Table.get?_insert_eq_some_iff.mp hstored with ⟨rfl, rfl⟩ | ⟨-, hold⟩
      · exact Or.inr ⟨rfl, by simp, r, hsolve⟩
      · exact Or.inl (Or.inl hold)
    · exact Or.inl (Or.inr hpending)
  | @completed id' era a' hpending =>
    rcases h with hstored | ⟨era', hstill⟩
    · rcases Table.get?_insert_eq_some_iff.mp hstored with ⟨rfl, rfl⟩ | ⟨-, hold⟩
      · exact Or.inl (Or.inr ⟨era, hpending⟩)
      · exact Or.inl (Or.inl hold)
    · exact Or.inl (Or.inr ⟨era', (Table.get?_erase_eq_some_iff.mp hstill).2⟩)
  | dropped id' =>
    rcases h with hstored | ⟨era, hstill⟩
    · exact Or.inl (Or.inl hstored)
    · exact Or.inl (Or.inr ⟨era, (Table.get?_erase_eq_some_iff.mp hstill).2⟩)
  | released hready hid =>
    rcases h with hstored | hpending
    · exact Or.inl (Or.inl (Table.get?_erase_eq_some_iff.mp hstored).2)
    · exact Or.inl (Or.inr hpending)
  | removed hready hid =>
    rcases h with hstored | hpending
    · exact Or.inl (Or.inl (Table.get?_filter_eq_some_iff.mp hstored).1)
    · exact Or.inl (Or.inr hpending)
  | closing => exact Or.inl h
  | forgotten _ _ hassignments hpending =>
    rw [Outstanding, hassignments, hpending] at h
    rcases h with hstored | hpending
    · cases hstored
    · exact Or.inl (Or.inr hpending)

/-! ## Numbers -/

/-- No number is given to two assignments. -/
structure Numbered (s : Session) : Prop where
  lt_next : ∀ id, id ∈ s.assignments ∨ id ∈ s.pending → id < s.nextAssignment
  apart : ∀ id ∈ s.pending, id ∉ s.assignments

theorem Numbered.not_mem_next (h : Numbered s) :
    s.nextAssignment ∉ s.assignments ∧ s.nextAssignment ∉ s.pending :=
  ⟨fun hmem => (h.lt_next _ (Or.inl hmem)).false, fun hmem => (h.lt_next _ (Or.inr hmem)).false⟩

theorem Numbered.change (h : Numbered s) (hc : Change s t events) : Numbered t := by
  cases hc with
  | same hsame =>
    constructor
    · rw [hsame.assignments, hsame.pending, hsame.nextAssignment]
      exact h.lt_next
    · rw [hsame.assignments, hsame.pending]
      exact h.apart
  | started => exact { h with }
  | admitted =>
    constructor
    · intro id hid
      rw [Table.mem_insert, or_left_comm] at hid
      rcases hid with rfl | hid
      · exact Nat.lt_succ_self _
      · exact Nat.lt_succ_of_lt (h.lt_next id hid)
    · intro id hid
      rcases Table.mem_insert.mp hid with rfl | hid
      · exact h.not_mem_next.1
      · exact h.apart id hid
  | placed =>
    constructor
    · intro id hid
      rw [Table.mem_insert, or_assoc] at hid
      rcases hid with rfl | hid
      · exact Nat.lt_succ_self _
      · exact Nat.lt_succ_of_lt (h.lt_next id hid)
    · intro id hid hmem
      rcases Table.mem_insert.mp hmem with rfl | hmem
      · exact h.not_mem_next.2 hid
      · exact h.apart id hid hmem
  | @completed id' era a' hpending =>
    have hid' : id' ∈ s.pending := Table.mem_of_get? hpending
    constructor
    · intro id hid
      rw [Table.mem_insert, Table.mem_erase] at hid
      rcases hid with (rfl | hid) | ⟨-, hid⟩
      · exact h.lt_next id (Or.inr hid')
      · exact h.lt_next id (Or.inl hid)
      · exact h.lt_next id (Or.inr hid)
    · intro id hid hmem
      obtain ⟨hne, hid⟩ := Table.mem_erase.mp hid
      rcases Table.mem_insert.mp hmem with heq | hmem
      · exact hne heq
      · exact h.apart id hid hmem
  | dropped id' =>
    constructor
    · exact fun id hid => h.lt_next id (hid.imp_right fun hid => (Table.mem_erase.mp hid).2)
    · exact fun id hid => h.apart id (Table.mem_erase.mp hid).2
  | released =>
    constructor
    · exact fun id hid => h.lt_next id (hid.imp_left fun hid => (Table.mem_erase.mp hid).2)
    · exact fun id hid hmem => h.apart id hid (Table.mem_erase.mp hmem).2
  | removed =>
    constructor
    · exact fun id hid => h.lt_next id (hid.imp_left Table.mem_of_mem_filter)
    · exact fun id hid hmem => h.apart id hid (Table.mem_of_mem_filter hmem)
  | closing => exact { h with }
  | forgotten _ _ hassignments hpending hnext =>
    constructor
    · rw [hassignments, hpending, hnext]
      exact fun id hid => h.lt_next id (hid.imp_left fun hmem => absurd hmem (Table.not_mem_empty id))
    · rw [hassignments]
      exact fun id _ => Table.not_mem_empty id

/-! ## Devices -/

/-- Outstanding assignments are accounted for, and stored ones are on registered devices. -/
structure Grounded (s : Session) : Prop where
  listed : Listed s
  accounted : ∀ id a, Outstanding s id a → Accounted a
  registered : ∀ id a, s.assignments.get? id = some a → ∀ d ∈ a.bytes, d ∈ s.registry
  idle : s.phase = .uninitialized → s.registry = .empty ∧ s.assignments = .empty

theorem Grounded.registered_insert (h : Grounded s) {id' : AssignmentId} {a' : Placement.Assignment}
    (hregistered : ∀ d ∈ a'.bytes, d ∈ s.registry)
    (hstored : (s.assignments.insert id' a').get? id = some a) : ∀ d ∈ a.bytes, d ∈ s.registry := by
  rcases Table.get?_insert_eq_some_iff.mp hstored with ⟨-, rfl⟩ | ⟨-, hold⟩
  · exact hregistered
  · exact h.registered id a hold

theorem Grounded.change (h : Grounded s) (hc : Change s t events) : Grounded t := by
  have hlisted : Listed t := hc.listed h.listed
  have haccounted : ∀ id a, Outstanding t id a → Accounted a := by
    intro id a hout
    rcases hc.of_outstanding hout with hold | ⟨-, -, r, hsolve⟩
    · exact h.accounted id a hold
    · exact accounted_of_solve h.listed hsolve
  cases hc with
  | same hsame =>
    refine ⟨hlisted, haccounted, ?_, fun hidle => ?_⟩
    · rw [hsame.assignments]
      exact fun id a hstored d hd => hsame.mem_registry (h.registered id a hstored d hd)
    · rw [hsame.phase] at hidle
      rw [hsame.assignments, hsame.closed (by rw [hidle]; exact Phase.noConfusion)]
      exact h.idle hidle
  | started => exact { h with listed := hlisted, accounted := haccounted, idle := nofun }
  | admitted => exact { h with listed := hlisted, accounted := haccounted }
  | placed hready _ hregistered =>
    refine ⟨hlisted, haccounted, ?_, fun hidle => nomatch hready.symm.trans hidle⟩
    exact fun _ _ => h.registered_insert hregistered
  | @completed id' era a' hpending hregistered =>
    refine ⟨hlisted, haccounted, fun _ _ => h.registered_insert hregistered, fun hidle => ?_⟩
    -- A session that is not started has no devices for the assignment to be on.
    obtain ⟨d, hd⟩ := (h.accounted id' a' (Or.inr ⟨era, hpending⟩)).nonempty
    have hmem := hregistered d hd
    rw [(h.idle hidle).1] at hmem
    exact absurd hmem (Table.not_mem_empty d)
  | dropped => exact { h with listed := hlisted, accounted := haccounted }
  | released hready =>
    refine ⟨hlisted, haccounted, ?_, fun hidle => nomatch hready.symm.trans hidle⟩
    exact fun id a hstored => h.registered id a (Table.get?_erase_eq_some_iff.mp hstored).2
  | removed hready =>
    refine ⟨hlisted, haccounted, fun id a hstored d hd => ?_,
      fun hidle => nomatch hready.symm.trans hidle⟩
    obtain ⟨hold, hkept⟩ := Table.get?_filter_eq_some_iff.mp hstored
    refine Table.mem_erase.mpr ⟨?_, h.registered id a hold d hd⟩
    rintro rfl
    rw [Placement.Assignment.references, show a.bytes.contains d = true from hd] at hkept
    cases hkept
  | closing => exact { h with listed := hlisted, accounted := haccounted, idle := nofun }
  | forgotten _ hregistry hassignments =>
    refine ⟨hlisted, haccounted, fun id a hstored => ?_, fun _ => ⟨hregistry, hassignments⟩⟩
    rw [hassignments] at hstored
    cases hstored

/-! ## What stands -/

theorem stands_append_of_quiet (hplaced : .placed id a ∉ events)
    (hends : ∀ e ∈ events, ¬Event.Ends id a e) :
    Stands (log ++ events) id a ↔ Stands log id a :=
  (Event.lasts_append_of_not_mem hplaced).trans (and_iff_left hends)

theorem stands_concat_of_ne {e : Event} (he : e ≠ .placed id a) :
    Stands (log ++ [e]) id a ↔ Stands log id a ∧ ¬Event.Ends id a e := by
  rw [Stands, Event.lasts_append_of_not_mem fun hmem => he (List.mem_singleton.mp hmem).symm,
    List.forall_mem_singleton, Stands]

theorem stands_concat_placed {id' : AssignmentId} {a' : Placement.Assignment} :
    Stands (log ++ [.placed id' a']) id a ↔ (id = id' ∧ a = a') ∨ Stands log id a := by
  have hends : ∀ e ∈ [Event.placed id' a'], ¬Event.Ends id a e := by
    rw [List.forall_mem_singleton]
    exact nofun
  rw [Stands, Event.lasts_append, and_iff_left hends, Stands]
  refine or_congr_left ⟨fun hlasts => ?_, ?_⟩
  · obtain ⟨rfl, rfl⟩ := Event.placed.inj (List.mem_singleton.mp hlasts.mem)
    exact ⟨rfl, rfl⟩
  · rintro ⟨rfl, rfl⟩
    exact ⟨[], [], rfl, nofun⟩

theorem stands_concat_admitted {id' : AssignmentId} :
    Stands (log ++ [.admitted id']) id a ↔ Stands log id a :=
  (stands_concat_of_ne (by simp)).trans (and_iff_left nofun)

/-- The stored assignments of a session that is ready are those that stand. -/
def Tallies (s : Session) (log : List Event) : Prop :=
  s.phase = .ready → ∀ id a, s.assignments.get? id = some a ↔ Stands log id a

theorem Tallies.change (h : Tallies s log) (hnumbered : Numbered s) (hgrounded : Grounded s)
    (hc : Change s t events) : Tallies t (log ++ events) := by
  intro hready id a
  cases hc with
  | same hsame =>
    rw [hsame.phase] at hready
    rw [hsame.assignments, stands_append_of_quiet (by simp) fun e he => ?_]
    · exact h hready id a
    · obtain ⟨d, -, rfl⟩ := List.mem_map.mp he
      exact nofun
  | started hphase =>
    rw [stands_concat_of_ne (by simp), (hgrounded.idle hphase).2]
    exact ⟨nofun, fun hstands => absurd .started hstands.2⟩
  | admitted =>
    rw [stands_concat_admitted]
    exact h hready id a
  | placed =>
    rw [List.append_cons, stands_concat_placed, stands_concat_admitted,
      Table.get?_insert_eq_some_iff_of_not_mem hnumbered.not_mem_next.1]
    exact or_congr_right (h hready id a)
  | completed hpending =>
    rw [stands_concat_placed, Table.get?_insert_eq_some_iff_of_not_mem
      (hnumbered.apart _ (Table.mem_of_get? hpending))]
    exact or_congr_right (h hready id a)
  | dropped =>
    rw [List.append_nil]
    exact h hready id a
  | @released id' =>
    have hends : Event.Ends id a (.released id') ↔ id = id' :=
      ⟨fun hends => by cases hends; rfl, fun heq => heq ▸ .released⟩
    rw [stands_concat_of_ne (by simp), Table.get?_erase_eq_some_iff, and_comm, hends, h hready]
  | @removed d =>
    rw [stands_concat_of_ne (by simp), Table.get?_filter_eq_some_iff, h hready]
    refine and_congr_right fun hstands => ?_
    -- An assignment that stands counts bytes for the devices that hold its shards.
    have haccounted := hgrounded.accounted id a (Or.inl ((h hready id a).mpr hstands))
    have hends : Event.Ends id a (.removed d) ↔ d ∈ a.bytes := by
      rw [haccounted.mem_bytes_iff]
      exact ⟨fun hends => by cases hends with | removed hshard => exact ⟨_, hshard⟩,
        fun ⟨_, hshard⟩ => .removed hshard⟩
    rw [hends, Bool.not_eq_true']
    exact Bool.eq_false_iff
  | closing => cases hready
  | forgotten hphase => exact nomatch hphase.symm.trans hready

/-! ## Runs -/

/-- The assignments of a session agree with what has happened. -/
structure Booked (s : Session) (log : List Event) : Prop extends Numbered s, Grounded s where
  tallies : Tallies s log

theorem Booked.new (config : Config) : Booked (new config) [] where
  lt_next id hid := hid.elim (absurd · (Table.not_mem_empty id)) (absurd · (Table.not_mem_empty id))
  apart id hid := absurd hid (Table.not_mem_empty id)
  listed _ _ hentry := nomatch hentry
  accounted _ _ hout := hout.elim nofun fun ⟨_, hpending⟩ => nomatch hpending
  registered _ _ hstored := nomatch hstored
  idle _ := ⟨rfl, rfl⟩
  tallies hready := nomatch hready

theorem Run.booked (h : Run s log) : Booked s log := by
  refine Run.induction Booked.new (fun _ ih hc => ⟨?_, ?_, ?_⟩) h
  · exact ih.toNumbered.change hc
  · exact ih.toGrounded.change hc
  · exact ih.tallies.change ih.toNumbered ih.toGrounded hc

theorem mem_assignmentsOn_iff {d : DeviceId} :
    id ∈ s.assignmentsOn d ↔ ∃ a, s.assignments.get? id = some a ∧ d ∈ a.bytes := by
  rw [assignmentsOn, Table.mem_keys_iff, Table.mem_iff_get?]
  exact exists_congr fun a => Table.get?_filter_eq_some_iff

theorem assignmentsOn_sorted (s : Session) (d : DeviceId) : (s.assignmentsOn d).Pairwise (· < ·) :=
  (Table.keys_sorted _).imp Nat.compare_eq_lt.mp

/-- A removed device takes the assignments with it that count bytes for it, and no others. -/
theorem removeDevice_of_mem (hready : s.phase = .ready) {d : DeviceId} (hd : d ∈ s.registry) :
    ∃ t, s.removeDevice d = (t, .ok (s.assignmentsOn d)) ∧
      ∀ id, t.assignments.get? id =
        if id ∈ s.assignmentsOn d then none else s.assignments.get? id := by
  have hremove : s.removeDevice d = _ := call_of_ready hready _ _
  rw [if_pos (show s.isRegistered d = true from hd)] at hremove
  refine ⟨_, hremove, fun id => Option.ext fun a => ?_⟩
  rw [Table.get?_filter_eq_some_iff, Bool.not_eq_true', Bool.eq_false_iff]
  split
  · rename_i hid
    obtain ⟨a', hstored, hd'⟩ := mem_assignmentsOn_iff.mp hid
    refine iff_of_false ?_ nofun
    rintro ⟨hstored', hkept⟩
    obtain rfl := Option.some.inj (hstored'.symm.trans hstored)
    exact hkept hd'
  · rename_i hid
    exact and_iff_left_of_imp fun hstored hd' => hid (mem_assignmentsOn_iff.mpr ⟨a, hstored, hd'⟩)

/-- A release gives up one assignment, and says whether it was stored. -/
theorem releaseAssignment_of_ready (hready : s.phase = .ready) (id : AssignmentId) :
    ∃ t, s.releaseAssignment id = (t, .ok (s.assignments.contains id)) ∧
      ∀ id', t.assignments.get? id' = if id' = id then none else s.assignments.get? id' := by
  refine ⟨_, call_of_ready hready _ _, fun id' => ?_⟩
  rw [Table.get?_erase]
  simp only [eq_comm (a := id)]

/--
A session that is ready stores exactly the assignments that placements have returned since it was
started, except those that were released and those with a shard, even an empty one, on a device that was
removed later. So all devices of its assignments are registered. A release says whether the assignment
was stored, and takes no other one away. Removing a device gives the assignments
with a shard on it, in order and each one once, and all others stay as they are.
-/
theorem stored_iff_stands (h : Run s log) (hready : s.phase = .ready) :
    (∀ id a, s.assignment id = .ok (some a) ↔ Stands log id a) ∧
    (∃ stored, s.storedAssignments = .ok stored ∧ ∀ id a, (id, a) ∈ stored ↔ Stands log id a) ∧
    (∀ id a, Stands log id a → ∀ shard d, a.deviceFor? shard = some d → d ∈ s.registry) ∧
    (∀ id, ∃ t isStored, s.releaseAssignment id = (t, .ok isStored) ∧
      (isStored = true ↔ ∃ a, Stands log id a) ∧
      ∀ id', t.assignments.get? id' = if id' = id then none else s.assignments.get? id') ∧
    ∀ d ∈ s.registry, ∃ t ids, s.removeDevice d = (t, .ok ids) ∧ ids.Pairwise (· < ·) ∧
      (∀ id, id ∈ ids ↔ ∃ a, Stands log id a ∧ ∃ shard, a.deviceFor? shard = some d) ∧
      ∀ id, t.assignments.get? id = if id ∈ ids then none else s.assignments.get? id := by
  have hbooked := h.booked
  have hstands : ∀ id a, s.assignments.get? id = some a ↔ Stands log id a := hbooked.tallies hready
  have hbytes : ∀ id a d, s.assignments.get? id = some a →
      (d ∈ a.bytes ↔ ∃ shard, a.deviceFor? shard = some d) := fun id a d hstored =>
    (hbooked.accounted id a (Or.inl hstored)).mem_bytes_iff d
  refine ⟨fun id a => ?_, ⟨s.assignments.entries, ?_, fun id a => ?_⟩, ?_, fun id => ?_, fun d hd => ?_⟩
  · rw [assignment, query_of_ready hready, ← hstands, Except.ok.injEq]
  · rw [storedAssignments, query_of_ready hready]
  · rw [← Table.get?_eq_some_iff, hstands]
  · intro id a ha shard d hshard
    have hstored := (hstands id a).mpr ha
    exact hbooked.registered id a hstored d ((hbytes id a d hstored).mpr ⟨shard, hshard⟩)
  · obtain ⟨t, heq, hrest⟩ := releaseAssignment_of_ready hready id
    refine ⟨t, s.assignments.contains id, heq, ?_, hrest⟩
    rw [Table.contains, Option.isSome_iff_exists]
    exact exists_congr (hstands id)
  · obtain ⟨t, heq, hrest⟩ := removeDevice_of_mem hready hd
    refine ⟨t, s.assignmentsOn d, heq, assignmentsOn_sorted s d, fun id => ?_, hrest⟩
    rw [mem_assignmentsOn_iff]
    refine exists_congr fun a => ?_
    rw [← hstands]
    exact and_congr_right fun hstored => hbytes id a d hstored

/-- A session with one device of 16 bytes, which has sent a sample with all of them free. -/
def lone : Session :=
  let gpu : Device := ⟨"gpu", "A", .nvidia, "ada", 16, 4, [.fp32], .desktop, 900, none⟩
  let sample : Sample Float := ⟨"gpu", .epoch, 0, 16, 50, 200, 60, 1500⟩
  ((((new {}).perform .start).1.perform (.registerDevice gpu)).1.perform (.record sample)).1

theorem run_lone : Run lone [.started, .sampled "gpu"] :=
  (((Run.new {}).perform .start).perform (.registerDevice _)).perform (.record _)

theorem pool_lone : ∃ d, lone.pool = [d] ∧ d.id = "gpu" ∧ d.free = 16 := by
  have hmode : ∃ predicted, lone.monitor.mode? "gpu" =
      some (Thermal.nextMode (.of {}) .running 50 predicted) := ⟨_, rfl⟩
  obtain ⟨predicted, hmode⟩ := hmode
  obtain ⟨score, hpool⟩ := exists_pool_eq_singleton (s := lone) rfl rfl rfl fun hpaused =>
    Thermal.Executor.nextMode_running_ne_paused rfl (by decide) predicted
      (Option.some.inj (hmode.symm.trans hpaused))
  exact ⟨_, hpool, rfl, rfl⟩

/-- A shard that the device of `lone` has room for is placed on it. -/
theorem placeShards_lone {size : Nat} (hsize : size ≤ 16) :
    ∃ s a, lone.placeShards ⟨[size], [], none, none⟩ = (s, .ok (0, a)) ∧
      s = { lone with assignments := lone.assignments.insert 0 a, nextAssignment := 1 } ∧
      s.phase = .ready ∧ s.assignment 0 = .ok (some a) ∧
      a.deviceFor? 0 = some "gpu" ∧ a.bytes.get? "gpu" = some size := by
  have hready : lone.phase = .ready := by decide +kernel
  obtain ⟨d, hpool, hid, hfree⟩ := pool_lone
  obtain ⟨s, a, heq, hs, hplaced⟩ :=
    placeShards_singleton run_lone.listed hready (by decide) hpool (hfree ▸ hsize)
  have hphase : s.phase = .ready := hs ▸ hready
  refine ⟨s, a, heq, hs, hphase, ?_, hid ▸ hplaced⟩
  rw [assignment, query_of_ready hphase, hs]
  exact congrArg Except.ok (Table.get?_insert_self lone.assignments 0 a)

/-- A shard of no bytes is lost with its device. -/
theorem stored_iff_stands_of_empty_shard :
    ∃ s log a, Run s log ∧ s.phase = .ready ∧ s.assignment 0 = .ok (some a) ∧ Stands log 0 a ∧
      a.deviceFor? 0 = some "gpu" ∧ a.bytes.get? "gpu" = some 0 ∧
      ∃ t ids, s.removeDevice "gpu" = (t, .ok ids) ∧ 0 ∈ ids ∧ t.assignments.get? 0 = none := by
  obtain ⟨s, a, heq, hs, hready, hstored, hshard, hbytes⟩ := placeShards_lone (Nat.zero_le 16)
  have hrun := run_lone.placeShards heq
  have hgpu : "gpu" ∈ s.registry := by
    rw [hs]
    exact (by decide +kernel : "gpu" ∈ lone.registry)
  obtain ⟨hassignment, -, -, -, hremove⟩ := stored_iff_stands hrun hready
  have hstands := (hassignment 0 a).mp hstored
  obtain ⟨t, ids, hremoved, -, hids, hrest⟩ := hremove "gpu" hgpu
  have hmem : 0 ∈ ids := (hids 0).mpr ⟨a, hstands, 0, hshard⟩
  refine ⟨s, _, a, hrun, hready, hstored, hstands, hshard, hbytes, t, ids, hremoved, hmem, ?_⟩
  rw [hrest, if_pos hmem]

end GpuCluster.Session
