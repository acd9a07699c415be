import Mathlib
import GpuCluster.Proofs.Sampling.Tasks
import GpuCluster.Proofs.Session.Calls

/-!
# Numbers that run ahead

A session numbers its eras, its assignments and its executors. Nothing depends on how far these numbers
have come: a session whose numbers run ahead answers every call alike, except that the numbers in its
answers run ahead, too. What it keeps of earlier eras may be more, as long as it keeps the same of the
eras that both have been through.
-/

namespace GpuCluster

open Sampling

/-! ## Executors -/

namespace Thermal

def Permit.ahead (p : Permit) (n : Nat) : Permit := { p with issuer := p.issuer + n }

def Executor.ahead (e : Executor) (n : Nat) : Executor := { e with serial := e.serial + n }

theorem Executor.beginCompute_ahead (e : Executor) (n : Nat) :
    (e.ahead n).beginCompute = e.beginCompute.map fun out => (out.1.ahead n, out.2.ahead n) := by
  rw [beginCompute, beginCompute]
  cases h : e.mode.acceptsWork <;> simp only [ahead, h] <;> rfl

theorem Executor.giveBack_ahead (e : Executor) (p : Permit) (n : Nat) :
    (e.ahead n).giveBack (p.ahead n) = (e.giveBack p).ahead n := by
  simp only [giveBack, ahead, Permit.ahead, Nat.add_right_cancel_iff]
  split <;> rfl

theorem Executor.giveBack_ahead_of_lt (e : Executor) {p : Permit} {n : Nat} (h : p.issuer < n) :
    (e.ahead n).giveBack p = e.ahead n :=
  if_neg (Nat.ne_of_lt (Nat.lt_of_lt_of_le h (Nat.le_add_left n e.serial)))

namespace Monitor

variable (m : Monitor) (n : Nat) (id : DeviceId)

def ahead : Monitor :=
  { m with executors := m.executors.map fun _ e => e.ahead n, nextSerial := m.nextSerial + n }

theorem get?_ahead : (m.ahead n).executors.get? id = (m.executors.get? id).map (·.ahead n) :=
  Table.get?_map ..

theorem tracks_ahead : (m.ahead n).tracks id = m.tracks id := by
  rw [tracks, Table.contains, get?_ahead, Option.isSome_map, tracks, Table.contains]

theorem register_ahead (calibration : Calibration Float) :
    (m.ahead n).register id calibration = (m.register id calibration).ahead n := by
  rw [register, register, tracks_ahead]
  split
  · rfl
  · simp only [ahead, ← Table.insert_map, Nat.add_right_comm]
    rfl

theorem remove_ahead : (m.ahead n).remove id = (m.remove id).ahead n := by
  simp only [remove, ahead, Table.erase_map]

theorem observe_ahead (sample : Sample Float) :
    (m.ahead n).observe sample = (m.observe sample).map fun out => (out.1.ahead n, out.2) := by
  rw [observe, observe, get?_ahead]
  cases m.executors.get? sample.deviceId with
  | none => rfl
  | some e =>
    simp only [Option.map_some, ahead, ← Table.insert_map]
    rfl

theorem state?_ahead : (m.ahead n).state? id = m.state? id := by
  rw [state?, state?, get?_ahead, Option.bind_map]
  rfl

theorem mode?_ahead : (m.ahead n).mode? id = m.mode? id := by
  rw [mode?, mode?, get?_ahead, Option.map_map]
  rfl

theorem states_ahead : (m.ahead n).states = m.states := by
  rw [states, states, ahead, Table.values_map, List.filterMap_map]
  rfl

theorem beginCompute_ahead :
    (m.ahead n).beginCompute id =
      (m.beginCompute id).map fun out => (out.1.ahead n, out.2.ahead n) := by
  rw [beginCompute, beginCompute, get?_ahead]
  cases m.executors.get? id with
  | none => rfl
  | some e =>
    simp only [Option.map_some, Executor.beginCompute_ahead]
    cases e.beginCompute with
    | error cause => rfl
    | ok out =>
      simp only [Except.map, ahead, ← Table.insert_map]

theorem giveBack_ahead (p : Permit) :
    (m.ahead n).giveBack (p.ahead n) = (m.giveBack p).ahead n := by
  simp only [giveBack, ahead]
  rw [Table.modify_map _ _ fun e => Executor.giveBack_ahead e p n]
  rfl

/-- A permit from before the lead has no issuer any more. -/
theorem giveBack_ahead_of_lt {p : Permit} (h : p.issuer < n) :
    (m.ahead n).giveBack p = m.ahead n := by
  have hself : ∀ e ∈ (m.ahead n).executors.values, e.giveBack p = e := by
    intro e he
    rw [ahead, Table.values_map] at he
    obtain ⟨e, -, rfl⟩ := List.mem_map.mp he
    exact e.giveBack_ahead_of_lt h
  rw [giveBack, Table.modify_eq_self _ hself]

end Monitor

end Thermal

/-! ## Sessions -/

/-- How far the numbers of one session are ahead of those of another. -/
structure Lead where
  era : Nat
  assignment : AssignmentId
  executor : Nat

/--
The number that an assignment has in the session behind. Those from before the lead have no number there,
and get one that is free, `n` or above.
-/
def Lead.behind (lead : Lead) (n : Nat) (id : AssignmentId) : AssignmentId :=
  if id < lead.assignment then n + id else id - lead.assignment

def PendingPlacement.ahead (p : PendingPlacement) (n : Nat) : PendingPlacement :=
  { p with era := p.era + n }

def Subscription.ahead (subscription : Subscription) (n : Nat) : Subscription :=
  { subscription with era := subscription.era + n }

namespace Session

variable (s : Session) (lead : Lead) (past : Table Nat Announcements) {α σ : Type}

/-- The session with numbers that are ahead and its own announcements of earlier eras. -/
def ahead : Session :=
  { s with
    era := s.era + lead.era
    monitor := s.monitor.ahead lead.executor
    assignments := s.assignments.shift lead.assignment
    nextAssignment := s.nextAssignment + lead.assignment
    pending := (s.pending.map fun _ p => p.ahead lead.era).shift lead.assignment
    past }

/-- A reply with numbers that are ahead; what that means for the answer is said by a function. -/
def aheadReply (f : α → α) (reply : Reply α) : Reply α :=
  (reply.1.ahead lead past, reply.2.map f)

variable {s lead past}

theorem call_ahead {f : α → α} {reply reply' : Reply α} (operation : String)
    (h : reply' = aheadReply lead past f reply) :
    (s.ahead lead past).call operation reply' = aheadReply lead past f (s.call operation reply) := by
  rw [h, call, call, show (s.ahead lead past).rejection? operation = s.rejection? operation from rfl]
  cases s.rejection? operation <;> rfl

/-- A question whose answer has no numbers in it. -/
theorem ask_ahead {answer answer' : Except Error α} (h : answer' = answer) :
    (s.ahead lead past, answer') = aheadReply lead past (fun a => a) (s, answer) := by
  rw [h]
  cases answer <;> rfl

theorem query_ahead {f : α → α} {answer answer' : Except Error α} (operation : String)
    (h : answer' = answer.map f) :
    (s.ahead lead past, (s.ahead lead past).query operation answer') =
      aheadReply lead past f (s, s.query operation answer) := by
  rw [h, query, query,
    show (s.ahead lead past).rejection? operation = s.rejection? operation from rfl]
  cases s.rejection? operation <;> rfl

/-! ### Registration -/

theorem enter_ahead (d : Device) (endpoint : Option String) :
    (s.ahead lead past).enter d endpoint = (s.enter d endpoint).ahead lead past := by
  simp only [enter, ahead, Thermal.Monitor.register_ahead]

theorem announce_ahead (d : Device) (endpoint : Option String) :
    (s.ahead lead past).announce d endpoint =
      aheadReply lead past (fun a => a) (s.announce d endpoint) := by
  rw [announce, announce, show (s.ahead lead past).registry = s.registry from rfl]
  cases d.fault? with
  | some fault => rfl
  | none =>
    cases s.registry.get? d.id with
    | none =>
      rw [enter_ahead]
      rfl
    | some entry =>
      dsimp only
      split <;> rfl

theorem assignmentsOn_ahead (id : DeviceId) :
    (s.ahead lead past).assignmentsOn id = (s.assignmentsOn id).map (· + lead.assignment) := by
  rw [assignmentsOn, ahead, Table.filter_shift, Table.keys_shift, assignmentsOn]

theorem removeDevice_ahead (id : DeviceId) :
    (s.ahead lead past).removeDevice id =
      aheadReply lead past (List.map (· + lead.assignment)) (s.removeDevice id) := by
  refine call_ahead "remove_device" ?_
  rw [show (s.ahead lead past).isRegistered id = s.isRegistered id from rfl, assignmentsOn_ahead]
  split
  · simp only [aheadReply, ahead, Thermal.Monitor.remove_ahead, Table.filter_shift]
    rfl
  · rfl

/-! ### Samples -/

theorem observe_ahead (sample : Sample Float) :
    (s.ahead lead past).observe sample = aheadReply lead past (fun a => a) (s.observe sample) := by
  rw [observe, observe, show (s.ahead lead past).lanes = s.lanes from rfl,
    show (s.ahead lead past).collector = s.collector from rfl,
    show (s.ahead lead past).monitor = s.monitor.ahead lead.executor from rfl,
    Thermal.Monitor.observe_ahead]
  split
  · cases s.collector.record sample with
    | error cause => rfl
    | ok kept => cases s.monitor.observe sample <;> rfl
  · rfl

theorem record_ahead (sample : Sample Float) :
    (s.ahead lead past).record sample = aheadReply lead past (fun a => a) (s.record sample) :=
  call_ahead "record_metrics" (observe_ahead sample)

theorem observeAll_ahead (samples : List (Sample Float)) :
    (s.ahead lead past).observeAll samples =
      ((s.observeAll samples).1.ahead lead past, (s.observeAll samples).2) := by
  induction samples generalizing s with
  | nil => rfl
  | cons sample rest ih =>
    have hanswer : (s.observe sample).2.map (fun a => a) = (s.observe sample).2 := by
      cases (s.observe sample).2 <;> rfl
    simp only [observeAll, observe_ahead, aheadReply, ih, hanswer]

theorem recordBatch_ahead (samples : List (Sample Float)) :
    (s.ahead lead past).recordBatch samples =
      aheadReply lead past (fun a => a) (s.recordBatch samples) := by
  refine call_ahead "record_batch" ?_
  rw [observeAll_ahead]
  rfl

theorem applyHeartbeat_ahead (heartbeat : Wire.Heartbeat) :
    (s.ahead lead past).applyHeartbeat heartbeat =
      aheadReply lead past (fun a => a) (s.applyHeartbeat heartbeat) := by
  rw [applyHeartbeat, applyHeartbeat, show (s.ahead lead past).registry = s.registry from rfl]
  cases s.registry.get? heartbeat.deviceId with
  | none => rfl
  | some entry =>
    let entry' := { entry with isAvailable := heartbeat.isAvailable, lastError := heartbeat.lastError }
    exact @observe_ahead { s with registry := s.registry.insert heartbeat.deviceId entry' } lead past
      heartbeat.sample

theorem ingest_ahead (m : Wire.Message) :
    (s.ahead lead past).ingest m = aheadReply lead past (fun a => a) (s.ingest m) := by
  refine call_ahead "ingest" ?_
  cases m.fault? with
  | some fault => rfl
  | none =>
    cases m with
    | registration r =>
      simp only [announce_ahead, aheadReply]
      cases (s.announce r.device (some r.endpoint)).2 <;> rfl
    | heartbeat heartbeat => exact applyHeartbeat_ahead heartbeat

theorem ingestText_ahead (text : String) :
    (s.ahead lead past).ingestText text = aheadReply lead past (fun a => a) (s.ingestText text) := by
  rw [ingestText, ingestText]
  cases Wire.Envelope.decode text with
  | error e => rfl
  | ok envelope => exact ingest_ahead envelope.message

/-! ### Compute -/

theorem beginCompute_ahead (id : DeviceId) :
    (s.ahead lead past).beginCompute id =
      aheadReply lead past (·.ahead lead.executor) (s.beginCompute id) := by
  refine call_ahead "begin_compute" ?_
  rw [show (s.ahead lead past).monitor = s.monitor.ahead lead.executor from rfl,
    Thermal.Monitor.beginCompute_ahead]
  cases s.monitor.beginCompute id <;> rfl

theorem giveBack_ahead (permit : Thermal.Permit) :
    (s.ahead lead past).giveBack (permit.ahead lead.executor) =
      (s.giveBack permit).ahead lead past := by
  simp only [giveBack, ahead, Thermal.Monitor.giveBack_ahead]

/-- A permit from before the lead changes nothing. -/
theorem giveBack_ahead_of_lt {permit : Thermal.Permit} (h : permit.issuer < lead.executor) :
    (s.ahead lead past).giveBack permit = s.ahead lead past := by
  simp only [giveBack, ahead, Thermal.Monitor.giveBack_ahead_of_lt _ _ h]

/-! ### Placement -/

theorem candidate?_ahead : (s.ahead lead past).candidate? = s.candidate? := by
  funext entry
  rw [candidate?, show (s.ahead lead past).monitor = s.monitor.ahead lead.executor from rfl,
    Thermal.Monitor.mode?_ahead]
  rfl

theorem eligible_ahead : (s.ahead lead past).eligible = s.eligible := by
  rw [eligible, candidate?_ahead]
  rfl

theorem pool_ahead : (s.ahead lead past).pool = s.pool := by
  rw [pool, eligible_ahead]
  rfl

theorem solve_ahead (r : Placement.Request) : (s.ahead lead past).solve r = s.solve r := by
  rw [solve, pool_ahead]
  rfl

theorem placeShards_ahead (r : Placement.Request) :
    (s.ahead lead past).placeShards r =
      aheadReply lead past (Prod.map (· + lead.assignment) id) (s.placeShards r) := by
  refine call_ahead "place_shards" ?_
  rw [solve_ahead, show (s.ahead lead past).confirm = s.confirm from rfl]
  cases (s.solve r).bind s.confirm with
  | error e => rfl
  | ok a =>
    simp only [aheadReply, ahead, Table.insert_shift, Nat.add_right_comm]
    rfl

theorem beginPlacement_ahead (r : Placement.Request) :
    (s.ahead lead past).beginPlacement r =
      aheadReply lead past (· + lead.assignment) (s.beginPlacement r) := by
  refine call_ahead "place_shards" ?_
  rw [solve_ahead]
  cases s.solve r with
  | error e => rfl
  | ok outcome =>
    simp only [aheadReply, ahead, ← Table.insert_shift, ← Table.insert_map, Nat.add_right_comm]
    rfl

/-! ### Numbers of assignments -/

variable {n : Nat} {ν : Type} {t : Table Nat ν}

theorem behind_cases (lead : Lead) (hfree : ∀ id ∈ t, id < n) (id : AssignmentId) :
    (id ∉ t.shift lead.assignment ∧ lead.behind n id ∉ t) ∨
      id = lead.behind n id + lead.assignment := by
  rw [Lead.behind]
  split
  · rename_i hid
    refine Or.inl ⟨fun hmem => ?_, fun hmem => ?_⟩
    · exact absurd (Table.le_of_mem_shift t lead.assignment hmem) (Nat.not_le_of_lt hid)
    · exact absurd (hfree _ hmem) (Nat.not_lt_of_le (Nat.le_add_right n id))
  · rename_i hid
    exact Or.inr (Nat.sub_add_cancel (Nat.le_of_not_lt hid)).symm

theorem get?_behind (lead : Lead) (hfree : ∀ id ∈ t, id < n) (id : AssignmentId) :
    (t.shift lead.assignment).get? id = t.get? (lead.behind n id) := by
  rcases behind_cases lead hfree id with ⟨hid, hbehind⟩ | heq
  · rw [Table.get?_eq_none_iff.mpr hid, Table.get?_eq_none_iff.mpr hbehind]
  · conv_lhs => rw [heq, Table.get?_shift]

theorem erase_behind (lead : Lead) (hfree : ∀ id ∈ t, id < n) (id : AssignmentId) :
    (t.shift lead.assignment).erase id = (t.erase (lead.behind n id)).shift lead.assignment := by
  rcases behind_cases lead hfree id with ⟨hid, hbehind⟩ | heq
  · rw [Table.erase_of_not_mem hid, Table.erase_of_not_mem hbehind]
  · conv_lhs => rw [heq, Table.erase_shift]

/-! ### Calls -/

/-- The call with the numbers that it means in the session behind. -/
def Call.behind (lead : Lead) (n : Nat) : {α : Type} → Call α → Call α
  | _, .assignment id => .assignment (lead.behind n id)
  | _, .releaseAssignment id => .releaseAssignment (lead.behind n id)
  | _, call => call

/-- An answer of the session behind, with numbers that are ahead. -/
def Call.ahead (lead : Lead) : {α : Type} → Call α → α → α
  | _, .removeDevice _ => List.map (· + lead.assignment)
  | _, .placeShards _ => Prod.map (· + lead.assignment) id
  | _, .beginPlacement _ => (· + lead.assignment)
  | _, .storedAssignments => List.map (Prod.map (· + lead.assignment) id)
  | _, .beginCompute _ => (·.ahead lead.executor)
  | _, .subscribeChanges => (·.ahead lead.era)
  | _, .subscribeTransitions => (·.ahead lead.era)
  | _, _ => fun answer => answer

theorem start_ahead :
    (s.ahead lead past).start = aheadReply lead past (fun a => a) s.start := by
  rw [start, start, show (s.ahead lead past).phase = s.phase from rfl,
    show (s.ahead lead past).config = s.config from rfl]
  cases s.phase with
  | uninitialized => cases s.config.fault? <;> rfl
  | _ => rfl

theorem startSampling_ahead :
    (s.ahead lead past).startSampling = aheadReply lead past (fun a => a) s.startSampling := by
  refine call_ahead "start_sampling" ?_
  rw [show (s.ahead lead past).sampler = s.sampler from rfl]
  cases s.sampler <;> rfl

theorem releaseAssignment_ahead (hfree : ∀ id ∈ s.assignments, id < n) (id : AssignmentId) :
    (s.ahead lead past).releaseAssignment id =
      aheadReply lead past (fun a => a) (s.releaseAssignment (lead.behind n id)) := by
  refine call_ahead "release_assignment" ?_
  simp only [aheadReply, ahead, erase_behind lead hfree, Table.contains, get?_behind lead hfree]
  rfl

/-- A session with numbers that are ahead answers every call alike, and stays ahead as far as it was. -/
theorem perform_ahead (hfree : ∀ id ∈ s.assignments, id < n) {α : Type} (call : Call α) :
    (s.ahead lead past).perform call =
      aheadReply lead past (call.ahead lead) (s.perform (call.behind lead n)) := by
  cases call with
  | start => exact start_ahead
  | registerDevice d => exact call_ahead "register_device" (announce_ahead d none)
  | removeDevice id => exact removeDevice_ahead id
  | record sample => exact record_ahead sample
  | recordBatch samples => exact recordBatch_ahead samples
  | startSampling => exact startSampling_ahead
  | placeShards r => exact placeShards_ahead r
  | beginPlacement r => exact beginPlacement_ahead r
  | releaseAssignment id => exact releaseAssignment_ahead hfree id
  | beginCompute id => exact beginCompute_ahead id
  | ingest m => exact ingest_ahead m
  | ingestText text => exact ingestText_ahead text
  -- The others are questions.
  | subscribeChanges => exact query_ahead "subscribe_metrics" rfl
  | subscribeTransitions => exact query_ahead "subscribe_thermal" rfl
  | storedAssignments => exact query_ahead "assignments" rfl
  | assignment id =>
    refine query_ahead "assignment" ?_
    rw [show (s.ahead lead past).assignments = s.assignments.shift lead.assignment from rfl,
      get?_behind lead hfree]
    rfl
  | rankDevices =>
    refine query_ahead "rank_devices" ?_
    rw [eligible_ahead]
    rfl
  | selectBestDevice minFree =>
    refine query_ahead "select_best_device" ?_
    rw [eligible_ahead]
    rfl
  | thermalState id =>
    refine ask_ahead ?_
    rw [thermalState, show (s.ahead lead past).monitor = s.monitor.ahead lead.executor from rfl,
      Thermal.Monitor.state?_ahead]
    rfl
  | thermalStates =>
    refine query_ahead "thermal_states" ?_
    rw [show (s.ahead lead past).monitor = s.monitor.ahead lead.executor from rfl,
      Thermal.Monitor.states_ahead]
    rfl
  | _ => exact ask_ahead rfl

theorem completePlacement_ahead (hfree : ∀ id ∈ s.pending, id < n) (id : AssignmentId) :
    (s.ahead lead past).completePlacement id =
      (s.completePlacement (lead.behind n id)).map (aheadReply lead past fun a => a) := by
  have hfree' : ∀ id ∈ s.pending.map fun _ p => p.ahead lead.era, id < n := fun id hid =>
    hfree id (Table.mem_map.mp hid)
  rw [completePlacement, completePlacement,
    show (s.ahead lead past).pending = (s.pending.map fun _ p => p.ahead lead.era).shift _ from rfl]
  rcases behind_cases lead hfree' id with ⟨hid, hbehind⟩ | heq
  · rw [Table.get?_eq_none_iff.mpr hid,
      Table.get?_eq_none_iff.mpr fun hmem => hbehind (Table.mem_map.mpr hmem)]
    rfl
  · rw [get?_behind lead hfree', erase_behind lead hfree', Table.get?_map, Table.erase_map]
    cases s.pending.get? (lead.behind n id) with
    | none => rfl
    | some placement =>
      have hconfirm : ∀ pending, confirm { s.ahead lead past with pending } placement.outcome =
          s.confirm placement.outcome := fun _ => rfl
      have hconfirm' : ∀ pending, confirm { s with pending } placement.outcome =
          s.confirm placement.outcome := fun _ => rfl
      simp only [Option.map_some, PendingPlacement.ahead, hconfirm, hconfirm']
      cases s.confirm placement.outcome with
      | error e => rfl
      | ok a =>
        simp only [aheadReply, ahead, ← Table.insert_shift, ← heq]
        rfl

/-! ### Time -/

theorem verdict_map {β : Type} (f : α → β) (result : Except Error α) :
    verdict (result.map f) = verdict result := by
  cases result <;> rfl

theorem carries_ahead (lead : Lead) (past : Table Nat Announcements)
    (pull : DeviceId → σ → Option (Sample Float) × σ) :
    (surroundings pull).Carries (surroundings pull)
      fun state => (state.1.ahead lead past, state.2) where
  pull _ _ := rfl
  deliver sample state := by
    simp only [surroundings, record_ahead, aheadReply, verdict_map]

theorem advance_ahead (pull : DeviceId → σ → Option (Sample Float) × σ) (ms : Nat) (source : σ) :
    (s.ahead lead past).advance pull ms source =
      ((s.advance pull ms source).1.ahead lead past, (s.advance pull ms source).2) := by
  cases hsampler : s.sampler with
  | none =>
    simp only [advance, show (s.ahead lead past).sampler = none from hsampler, hsampler]
    rfl
  | some sampler =>
    have hcarried := Sampler.advance_carried (carries_ahead lead past pull) sampler ms
      ({ s with graceLeft := s.graceLeft - ms }, source)
    simp only [hsampler] at hcarried
    simp only [advance, show (s.ahead lead past).sampler = some sampler from hsampler, hsampler]
    exact congrArg (fun out => ({ out.2.1 with sampler := some out.1 }, out.2.2)) hcarried

end Session

end GpuCluster
