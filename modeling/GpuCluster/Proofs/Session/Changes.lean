import Mathlib
import GpuCluster.Proofs.Session.Atomicity
import GpuCluster.Proofs.Session.Events
import GpuCluster.Proofs.Session.Pool

/-!
# What a session can do

Each step of a run does one of a few things to the assignments: most steps leave them alone, and the
others admit, store, release or drop them. What is said of the assignments along runs goes through these
cases, and not through the calls again.
-/

namespace GpuCluster.Session

open Sampling

variable {s t u : Session} {σ : Type}

/-! ## Steps that leave the assignments alone -/

/-- The second session has what the first one has assigned and registered, and no new current sample
of other devices than the given ones. -/
structure SameHoldings (s t : Session) (sampled : List DeviceId) : Prop where
  phase : t.phase = s.phase
  era : t.era = s.era
  past : t.past = s.past
  assignments : t.assignments = s.assignments
  pending : t.pending = s.pending
  nextAssignment : t.nextAssignment = s.nextAssignment
  device : ∀ id entry, s.registry.get? id = some entry →
    ∃ entry', t.registry.get? id = some entry' ∧ entry'.device = entry.device
  /-- Devices are registered only in a session that is ready. -/
  closed : s.phase ≠ .ready → t.registry = s.registry
  listed : Listed s → Listed t
  current? : ∀ id ∉ sampled, t.collector.current? id = s.collector.current? id

namespace SameHoldings

variable {sampled sampled' : List DeviceId}

theorem refl (s : Session) : SameHoldings s s [] where
  phase := rfl
  era := rfl
  past := rfl
  assignments := rfl
  pending := rfl
  nextAssignment := rfl
  device _ entry hentry := ⟨entry, hentry, rfl⟩
  closed _ := rfl
  listed := id
  current? _ _ := rfl

theorem trans (h : SameHoldings s t sampled) (h' : SameHoldings t u sampled') :
    SameHoldings s u (sampled ++ sampled') where
  phase := h'.phase.trans h.phase
  era := h'.era.trans h.era
  past := h'.past.trans h.past
  assignments := h'.assignments.trans h.assignments
  pending := h'.pending.trans h.pending
  nextAssignment := h'.nextAssignment.trans h.nextAssignment
  device id entry hentry := by
    obtain ⟨entry', hentry', hdevice⟩ := h.device id entry hentry
    obtain ⟨entry'', hentry'', hdevice'⟩ := h'.device id entry' hentry'
    exact ⟨entry'', hentry'', hdevice'.trans hdevice⟩
  closed hphase := (h'.closed (h.phase ▸ hphase)).trans (h.closed hphase)
  listed := h'.listed ∘ h.listed
  current? id hid := by
    rw [List.mem_append, not_or] at hid
    exact (h'.current? id hid.2).trans (h.current? id hid.1)

/-- A call whose answer tells what it has sampled, nothing if it fails. -/
theorem of_call {α : Type} (sampled : Except Error α → List DeviceId) (operation : String)
    {reply : Reply α} (herror : ∀ e, sampled (.error e) = [])
    (h : s.phase = .ready → SameHoldings s reply.1 (sampled reply.2)) :
    SameHoldings s (s.call operation reply).1 (sampled (s.call operation reply).2) := by
  rcases call_cases s operation reply with ⟨-, heq⟩ | ⟨hready, heq⟩
  · rw [heq, herror]
    exact refl s
  · rw [heq]
    exact h hready

theorem mem_registry (h : SameHoldings s t sampled) {id : DeviceId} (hid : id ∈ s.registry) :
    id ∈ t.registry := by
  obtain ⟨entry, hentry⟩ := Table.mem_iff_get?.mp hid
  obtain ⟨entry', hentry', -⟩ := h.device id entry hentry
  exact Table.mem_of_get? hentry'

/-! ### Registration -/

theorem setEntry (hready : s.phase = .ready) {id : DeviceId} {entry entry' : RegisteredDevice}
    (hentry : s.registry.get? id = some entry) (hdevice : entry'.device = entry.device)
    (hknown : Known id entry (s.collector.current? id) →
      Known id entry' (s.collector.current? id)) :
    SameHoldings s { s with registry := s.registry.insert id entry' } [] :=
  { refl s with
    device id' old hold := by
      by_cases heq : id' = id
      · subst heq
        obtain rfl := Option.some.inj (hold.symm.trans hentry)
        exact ⟨entry', Table.get?_insert_self .., hdevice⟩
      · exact ⟨old, (Table.get?_insert_of_ne _ _ (Ne.symm heq)).trans hold, rfl⟩
    closed hphase := absurd hready hphase
    listed hlisted id' new hnew := by
      rcases Table.get?_insert_eq_some_iff.mp hnew with ⟨rfl, rfl⟩ | ⟨-, hold⟩
      · exact hknown (hlisted _ entry hentry)
      · exact hlisted id' new hold }

theorem enter (haligned : Aligned s) (hready : s.phase = .ready) {d : Device}
    (hfault : d.fault? = none) (hid : s.registry.get? d.id = none) (endpoint : Option String) :
    SameHoldings s (s.enter d endpoint) [] :=
  { refl s with
    device id' old hold := by
      have hne : d.id ≠ id' := by
        rintro rfl
        cases hid.symm.trans hold
      exact ⟨old, (Table.get?_insert_of_ne _ _ hne).trans hold, rfl⟩
    closed hphase := absurd hready hphase
    listed hlisted id' new hnew := by
      rw [haligned.current?_enter hid]
      rcases Table.get?_insert_eq_some_iff.mp hnew with ⟨rfl, rfl⟩ | ⟨-, hold⟩
      · rw [haligned.current?_eq_none hid]
        exact ⟨rfl, hfault, nofun, fun _ => ⟨rfl, rfl⟩⟩
      · exact hlisted id' new hold
    current? id' _ := haligned.current?_enter hid endpoint id' }

theorem announce (haligned : Aligned s) (hready : s.phase = .ready) (d : Device)
    (endpoint : Option String) : SameHoldings s (s.announce d endpoint).1 [] := by
  rw [Session.announce]
  split
  · exact refl s
  · rename_i hfault
    split
    · rename_i hnone
      exact enter haligned hready hfault hnone endpoint
    · rename_i entry hentry
      split
      · exact setEntry hready hentry rfl fun hknown => { hknown with }
      · exact refl s

theorem registerDevice (haligned : Aligned s) (d : Device) :
    SameHoldings s (s.registerDevice d).1 [] :=
  of_call (fun _ => []) "register_device" (fun _ => rfl) fun hready =>
    announce haligned hready d none

/-! ### Samples -/

theorem observed {sample : Sample Float} (hfault : sample.fault? = none) (slot : Telemetry.Slot)
    (e : Thermal.Executor) : SameHoldings s (s.observed sample slot e) [sample.deviceId] :=
  { refl s with
    listed hlisted id entry hentry := by
      have hknown := hlisted id entry hentry
      rw [current?_observed]
      split
      · rename_i heq
        refine { hknown with sample := ?_, unsampled := nofun }
        rintro _ ⟨⟩
        exact ⟨heq, hfault⟩
      · exact hknown
    current? id hid := by
      rw [List.mem_singleton] at hid
      rw [current?_observed, if_neg (Ne.symm hid)] }

theorem observe (h : Aligned s) (sample : Sample Float) :
    SameHoldings s (s.observe sample).1 (accepted sample (s.observe sample).2) := by
  rcases h.observe_cases sample with
    ⟨-, heq⟩ | ⟨-, fault, -, heq⟩ | ⟨-, hfault, slot, e, -, -, heq⟩
  · rw [heq]
    exact refl s
  · rw [heq]
    exact refl s
  · rw [heq]
    exact observed hfault slot e

theorem observeAll (h : Aligned s) (samples : List (Sample Float)) :
    SameHoldings s (s.observeAll samples).1
      (List.zipWith accepted samples (s.observeAll samples).2).flatten := by
  induction samples generalizing s with
  | nil => exact refl s
  | cons sample rest ih => exact (observe h sample).trans (ih (h.observe sample))

theorem record (h : Aligned s) (sample : Sample Float) :
    SameHoldings s (s.record sample).1 (accepted sample (s.record sample).2) :=
  of_call (accepted sample) "record_metrics" (fun _ => rfl) fun _ => observe h sample

theorem recordBatch (h : Aligned s) (samples : List (Sample Float)) :
    SameHoldings s (s.recordBatch samples).1
      (sampledBy (.recordBatch samples) (s.recordBatch samples).2) :=
  of_call (sampledBy (.recordBatch samples)) "record_batch" (fun _ => rfl) fun _ =>
    observeAll h samples

theorem applyHeartbeat (h : Aligned s) (hready : s.phase = .ready) {heartbeat : Wire.Heartbeat}
    (hfault : (Wire.Message.heartbeat heartbeat).fault? = none) :
    SameHoldings s (s.applyHeartbeat heartbeat).1
      (accepted heartbeat.sample (s.applyHeartbeat heartbeat).2) := by
  cases hentry : s.registry.get? heartbeat.deviceId with
  | none =>
    rw [Session.applyHeartbeat, hentry]
    exact refl s
  | some entry =>
    obtain ⟨slot, e, heq⟩ := h.applyHeartbeat_eq hfault hentry
    obtain ⟨hid, hsample⟩ := heartbeat_fault?_eq_none_iff.mp hfault
    -- A device without a sample must not become unavailable, so that the sample is taken in first.
    have hset := @setEntry (s.observed heartbeat.sample slot e) hready heartbeat.deviceId entry
      { entry with isAvailable := heartbeat.isAvailable, lastError := heartbeat.lastError } hentry rfl
    rw [current?_observed, if_pos hid.symm] at hset
    rw [heq]
    refine (observed hsample slot e).trans (hset fun hknown => { hknown with unsampled := ?_ })
    intro hnone
    cases hnone

theorem ingest (h : Coherent s) (m : Wire.Message) :
    SameHoldings s (s.ingest m).1 (acceptedOf m (s.ingest m).2) := by
  have herror : ∀ e, acceptedOf m (.error e : Except Error (Option Thermal.Transition)) = [] := by
    intro e
    cases m <;> rfl
  refine of_call (acceptedOf m) "ingest" herror fun hready => ?_
  cases hfault : m.fault? with
  | some fault => exact herror fault ▸ refl s
  | none =>
    cases m with
    | registration r => exact announce h.aligned hready r.device (some r.endpoint)
    | heartbeat heartbeat => exact applyHeartbeat h.aligned hready hfault

theorem ingestText (h : Coherent s) (text : String) :
    SameHoldings s (s.ingestText text).1 (sampledBy (.ingestText text) (s.ingestText text).2) := by
  cases hdecode : Wire.Envelope.decode text with
  | error e =>
    simp only [Session.ingestText, sampledBy, hdecode]
    exact refl s
  | ok envelope =>
    simp only [Session.ingestText, sampledBy, hdecode]
    exact ingest h envelope.message

/-! ### Compute -/

theorem beginCompute (s : Session) (id : DeviceId) : SameHoldings s (s.beginCompute id).1 [] := by
  refine of_call (fun _ => []) "begin_compute" (fun _ => rfl) fun _ => ?_
  split
  · exact refl s
  · exact { refl s with }

theorem giveBack (s : Session) (permit : Thermal.Permit) : SameHoldings s (s.giveBack permit) [] :=
  { refl s with }

/-! ### Sampling and time -/

theorem startSampling (s : Session) : SameHoldings s s.startSampling.1 [] := by
  refine of_call (fun _ => []) "start_sampling" (fun _ => rfl) fun _ => ?_
  split
  · exact refl s
  · exact { refl s with }

section Sampling

variable (pull : DeviceId → σ → Option (Sample Float) × σ)

theorem tick (h : Aligned s) (sampler : Sampler) (t : Tick) (source : σ) :
    SameHoldings s (sampler.tick (surroundings pull) t (s, source)).2.1
      (sampledAt pull t.deviceId (s, source)) := by
  rcases hpull : pull t.deviceId source with ⟨_ | sample, source'⟩
  · rw [sampledAt, hpull, Sampler.tick, sample_of_pull_none hpull]
    exact refl s
  · rw [sampledAt, hpull, Sampler.tick, sample_of_pull_some hpull]
    exact record h sample

theorem run (h : Aligned s) (limit count : Nat) (sampler : Sampler) (source : σ) :
    SameHoldings s (Sampler.run (surroundings pull) limit count sampler (s, source)).2.1
      (sampledDuring pull limit count sampler (s, source)) := by
  induction count generalizing s sampler source with
  | zero => exact refl s
  | succ count ih =>
    cases hnext : sampler.next? limit with
    | none =>
      rw [Sampler.run, sampledDuring, hnext]
      exact refl s
    | some tick =>
      rw [Sampler.run, sampledDuring, hnext]
      exact (SameHoldings.tick pull h sampler tick source).trans
        (ih (h.sample pull tick.deviceId source).1 _ _)

theorem advance (h : Aligned s) (ms : Nat) (source : σ) :
    SameHoldings s (s.advance pull ms source).1 (sampledWhile pull ms s source) := by
  have haligned : Aligned { s with graceLeft := s.graceLeft - ms } := { h with }
  cases hsampler : s.sampler with
  | none =>
    simp only [Session.advance, sampledWhile, hsampler]
    exact { refl s with }
  | some sampler =>
    simp only [Session.advance, sampledWhile, hsampler, Sampler.advance]
    have hrun := hsampler ▸ run pull haligned (sampler.now + ms) (sampler.tickBound ms)
      { sampler with
        tasks := sampler.tasks.map fun _ task => task.wake sampler.intervalMs sampler.now } source
    exact { hrun with }

end Sampling

end SameHoldings

/-! ## All that a step does -/

/-- What a step does to the assignments, and the events that it makes. -/
inductive Change (s : Session) : Session → List Event → Prop
  | same {t : Session} {sampled : List DeviceId} (h : SameHoldings s t sampled) :
      Change s t (sampled.map .sampled)
  | started (hphase : s.phase = .uninitialized) : Change s { s with phase := .ready } [.started]
  | admitted {r : Placement.Request} {outcome : Except Placement.Refusal Placement.Assignment}
      (hready : s.phase = .ready)
      (hsolve : Placement.solve s.config.placement r s.pool = outcome) :
      Change s
        { s with
          pending := s.pending.insert s.nextAssignment ⟨s.era, outcome⟩
          nextAssignment := s.nextAssignment + 1 }
        [.admitted s.nextAssignment]
  | placed {r : Placement.Request} {a : Placement.Assignment} (hready : s.phase = .ready)
      (hsolve : Placement.solve s.config.placement r s.pool = .ok a)
      (hregistered : ∀ d ∈ a.bytes, d ∈ s.registry) :
      Change s
        { s with
          assignments := s.assignments.insert s.nextAssignment a
          nextAssignment := s.nextAssignment + 1 }
        [.admitted s.nextAssignment, .placed s.nextAssignment a]
  | completed {id : AssignmentId} {era : Nat} {a : Placement.Assignment}
      (hpending : s.pending.get? id = some ⟨era, .ok a⟩)
      (hregistered : ∀ d ∈ a.bytes, d ∈ s.registry) :
      Change s
        { s with pending := s.pending.erase id, assignments := s.assignments.insert id a }
        [.placed id a]
  | dropped (id : AssignmentId) : Change s { s with pending := s.pending.erase id } []
  | released {id : AssignmentId} (hready : s.phase = .ready) (hid : id ∈ s.assignments) :
      Change s { s with assignments := s.assignments.erase id } [.released id]
  | removed {id : DeviceId} (hready : s.phase = .ready) (hid : id ∈ s.registry) :
      Change s
        { s with
          registry := s.registry.erase id
          lanes := s.lanes.erase id
          collector := s.collector.remove id
          monitor := s.monitor.remove id
          sampler := s.sampler.map fun sampler => (sampler.stop id).1
          assignments := s.assignments.filter fun _ a => !a.references id }
        [.removed id]
  | closing (hready : s.phase = .ready) (graceLeft : Nat) :
      Change s { s with phase := .shuttingDown, graceLeft } []
  | forgotten {t : Session} (hphase : t.phase = .uninitialized) (hregistry : t.registry = .empty)
      (hassignments : t.assignments = .empty) (hpending : t.pending = s.pending)
      (hnext : t.nextAssignment = s.nextAssignment) (hera : t.era = s.era + 1)
      {announcements : Announcements} (hpast : t.past = s.past.insert s.era announcements) :
      Change s t []

theorem Change.refl (s : Session) : Change s s [] := .same (.refl s)

theorem Change.of_call {α : Type} (made : Except Error α → List Event) (operation : String)
    {reply : Reply α} (herror : ∀ e, made (.error e) = [])
    (h : s.phase = .ready → Change s reply.1 (made reply.2)) :
    Change s (s.call operation reply).1 (made (s.call operation reply).2) := by
  rcases call_cases s operation reply with ⟨-, heq⟩ | ⟨hready, heq⟩
  · rw [heq, herror]
    exact .refl s
  · rw [heq]
    exact h hready

theorem change_start (s : Session) : Change s s.start.1 (s.eventsOf .start s.start.2) := by
  rw [start]
  split
  · rename_i hready
    simp only [eventsOf, hready, reduceCtorEq, if_false]
    exact .refl s
  · exact .refl s
  · rename_i hphase
    split
    · exact .refl s
    · simp only [eventsOf, hphase, if_true]
      exact .started hphase

theorem change_removeDevice (s : Session) (id : DeviceId) :
    Change s (s.removeDevice id).1 (s.eventsOf (.removeDevice id) (s.removeDevice id).2) := by
  refine .of_call (s.eventsOf (.removeDevice id)) "remove_device" (fun _ => rfl) fun hready => ?_
  split
  · rename_i hid
    exact .removed hready hid
  · exact .refl s

theorem change_placeShards (s : Session) (r : Placement.Request) :
    Change s (s.placeShards r).1 (s.eventsOf (.placeShards r) (s.placeShards r).2) := by
  refine .of_call (s.eventsOf (.placeShards r)) "place_shards" (fun _ => rfl) fun hready => ?_
  split
  · exact .refl s
  · rename_i a hplaced
    obtain ⟨hsolve, hregistered⟩ := of_bind_confirm_eq_ok hplaced
    exact .placed hready hsolve hregistered

theorem change_beginPlacement (s : Session) (r : Placement.Request) :
    Change s (s.beginPlacement r).1 (s.eventsOf (.beginPlacement r) (s.beginPlacement r).2) := by
  refine .of_call (s.eventsOf (.beginPlacement r)) "place_shards" (fun _ => rfl) fun hready => ?_
  split
  · exact .refl s
  · rename_i outcome hsolve
    exact .admitted hready (of_solve_eq_ok hsolve)

theorem change_completePlacement {id : AssignmentId} {reply : Reply Placement.Assignment}
    (hreply : s.completePlacement id = some reply) : Change s reply.1 (completed id reply.2) := by
  obtain ⟨⟨era, outcome⟩, hpending, rfl⟩ := Option.map_eq_some_iff.mp hreply
  dsimp only
  split
  · exact .dropped id
  · rename_i a hconfirm
    obtain ⟨rfl, hregistered⟩ := of_confirm_eq_ok hconfirm
    exact .completed hpending hregistered

theorem change_releaseAssignment (s : Session) (id : AssignmentId) :
    Change s (s.releaseAssignment id).1
      (s.eventsOf (.releaseAssignment id) (s.releaseAssignment id).2) := by
  refine .of_call (s.eventsOf (.releaseAssignment id)) "release_assignment" (fun _ => rfl)
    fun hready => ?_
  by_cases hid : id ∈ s.assignments
  · rw [show s.assignments.contains id = true from hid]
    exact .released hready hid
  · rw [Table.erase_of_not_mem hid, Bool.eq_false_iff.mpr hid]
    exact .refl s

theorem change_forget (s : Session) : Change s s.forget [] := .forgotten rfl rfl rfl rfl rfl rfl rfl

theorem change_beginShutdown (s : Session) : Change s s.beginShutdown [] := by
  rw [beginShutdown]
  split
  · rename_i hready
    dsimp only
    split
    · exact change_forget s
    · exact .closing hready _
  · exact .refl s

theorem change_completeShutdown (h : Aligned s) (pull : DeviceId → σ → Option (Sample Float) × σ)
    (source : σ) : Change s (s.completeShutdown pull source).1 [] := by
  rw [completeShutdown]
  split
  · split
    · exact change_forget s
    · -- Samples that arrive during the shutdown are forgotten with everything else.
      have hsame := SameHoldings.advance pull h s.graceLeft source
      exact .forgotten rfl rfl rfl hsame.pending hsame.nextAssignment
        (congrArg (· + 1) hsame.era) (congrArg₂ (Table.insert · · _) hsame.past hsame.era)
  · exact .refl s

theorem change_perform (h : Coherent s) {α : Type} (call : Call α) :
    Change s (s.perform call).1 (s.eventsOf call (s.perform call).2) := by
  cases call with
  | start => exact change_start s
  | registerDevice d => exact .same (.registerDevice h.aligned d)
  | removeDevice id => exact change_removeDevice s id
  | record sample => exact .same (.record h.aligned sample)
  | recordBatch samples => exact .same (.recordBatch h.aligned samples)
  | startSampling => exact .same (.startSampling s)
  | placeShards r => exact change_placeShards s r
  | beginPlacement r => exact change_beginPlacement s r
  | releaseAssignment id => exact change_releaseAssignment s id
  | beginCompute id => exact .same (.beginCompute s id)
  | ingest m => exact .same (.ingest h m)
  | ingestText text => exact .same (.ingestText h text)
  -- The others are questions.
  | _ => exact .refl s

/-- What holds of new sessions and is kept by every change holds along every run. -/
theorem Run.induction {P : Session → List Event → Prop} (hnew : ∀ config, P (Session.new config) [])
    (hchange : ∀ {s t : Session} {log events : List Event}, Run s log → P s log →
      Change s t events → P t (log ++ events))
    {log : List Event} (h : Run s log) : P s log := by
  induction h with
  | new config => exact hnew config
  | perform h call ih => exact hchange h ih (change_perform h.reachable.coherent call)
  | completePlacement h hreply ih => exact hchange h ih (change_completePlacement hreply)
  | @giveBack s log h permit ih =>
    exact List.append_nil log ▸ hchange h ih (.same (.giveBack s permit))
  | advance h pull ms source ih =>
    exact hchange h ih (.same (.advance pull h.reachable.coherent.aligned ms source))
  | @beginShutdown s log h ih =>
    exact List.append_nil log ▸ hchange h ih (change_beginShutdown s)
  | @completeShutdown s log h _ pull source ih =>
    exact List.append_nil log ▸
      hchange h ih (change_completeShutdown h.reachable.coherent.aligned pull source)

/-! ## What changes keep -/

variable {log events : List Event}

theorem Change.listed (hc : Change s t events) (h : Listed s) : Listed t := by
  cases hc with
  | same hsame => exact hsame.listed h
  | removed =>
    intro id entry hentry
    obtain ⟨hne, hold⟩ := Table.get?_erase_eq_some_iff.mp hentry
    rw [Telemetry.Collector.remove, Telemetry.Collector.current?, Table.get?_erase,
      if_neg (Ne.symm hne)]
    exact h id entry hold
  | forgotten _ hregistry =>
    intro id entry hentry
    rw [hregistry] at hentry
    cases hentry
  | _ => exact h

theorem Run.listed (h : Run s log) : Listed s := by
  refine Run.induction (P := fun s _ => Listed s) (fun config => ?_) (fun _ ih hc => hc.listed ih) h
  intro id entry hentry
  cases hentry

theorem Reachable.listed (h : Reachable s) : Listed s := by
  obtain ⟨log, hrun⟩ := h.exists_run
  exact hrun.listed

/-- A step numbers at most one assignment. -/
theorem Change.nextAssignment_le (hc : Change s t events) :
    t.nextAssignment ≤ s.nextAssignment + 1 := by
  cases hc with
  | same hsame => exact hsame.nextAssignment ▸ Nat.le_succ _
  | forgotten _ _ _ _ hnext => exact hnext ▸ Nat.le_succ _
  | admitted | placed => exact le_rfl
  | _ => exact Nat.le_succ _

/-- The announcements that are kept are those of completed eras. -/
theorem Run.past_lt (h : Run s log) : ∀ era ∈ s.past, era < s.era := by
  refine Run.induction (P := fun s _ => ∀ era ∈ s.past, era < s.era) (fun config => ?_)
    (fun {s t log events} _ ih hc => ?_) h
  · exact fun era hera => absurd hera (Table.not_mem_empty era)
  · cases hc with
    | same hsame =>
      rw [hsame.past, hsame.era]
      exact ih
    | forgotten _ _ _ _ _ hera hpast =>
      intro era hmem
      rw [hpast, Table.mem_insert] at hmem
      rw [hera]
      rcases hmem with rfl | hmem
      · exact Nat.lt_succ_self s.era
      · exact Nat.lt_succ_of_lt (ih era hmem)
    | _ => exact ih

end GpuCluster.Session
