import Mathlib
import GpuCluster.Proofs.Sampling.Tasks
import GpuCluster.Proofs.Session.Alignment

/-!
# The tables of a session agree

The registry, the lanes, the collector and the monitor hold the same devices in every session that is
reached, and a sampler that runs has a task for each of them. What the collector and the monitor know
of a device comes from the same latest sample.
-/

namespace GpuCluster.Session

open Sampling

/-- A sampler has a task for every device of a session. -/
structure Serves (s : Session) (sampler : Sampler) : Prop where
  isOpen : sampler.isShutDown = false
  mem_tasks : ∀ id, id ∈ sampler.tasks ↔ id ∈ s.registry
  interval : sampler.intervalMs = s.config.telemetry.intervalMs
  lively : s.phase = .ready → sampler.IsLively

/-- The tables of a session agree. -/
structure Coherent (s : Session) : Prop where
  aligned : Aligned s
  serves : ∀ sampler, s.sampler = some sampler → Serves s sampler
  idle : s.phase = .uninitialized → s.sampler = none
  valid : s.phase ≠ .uninitialized → s.config.fault? = none

variable {s t : Session} {id : DeviceId} {sampler : Sampler} {σ : Type}

/-- Without an interval the configuration would have a fault. -/
theorem Coherent.interval (h : Coherent s) (hphase : s.phase ≠ .uninitialized) :
    s.config.telemetry.intervalMs ≠ 0 := by
  intro hzero
  have hvalid := h.valid hphase
  simp [Config.fault?, firstFault, TelemetryPolicy.fault?, hzero] at hvalid

/-! ## What a call keeps -/

theorem Serves.frame (h : Serves s sampler) (hregistry : ∀ id, id ∈ t.registry ↔ id ∈ s.registry)
    (hconfig : t.config = s.config) (hphase : t.phase = s.phase) : Serves t sampler where
  isOpen := h.isOpen
  mem_tasks id := (h.mem_tasks id).trans (hregistry id).symm
  interval := hconfig ▸ h.interval
  lively hready := h.lively (hphase ▸ hready)

theorem Coherent.frame (h : Coherent s) (haligned : Aligned t)
    (hregistry : ∀ id, id ∈ t.registry ↔ id ∈ s.registry) (hconfig : t.config = s.config)
    (hphase : t.phase = s.phase) (hsampler : t.sampler = s.sampler) : Coherent t where
  aligned := haligned
  serves sampler hs := (h.serves sampler (hsampler ▸ hs)).frame hregistry hconfig hphase
  idle hidle := hsampler.trans (h.idle (hphase ▸ hidle))
  valid hphase' := hconfig ▸ h.valid (hphase ▸ hphase')

theorem Coherent.of_empty (hregistry : s.registry = .empty) (hlanes : s.lanes = .empty)
    (hslots : s.collector.slots = .empty) (hexecutors : s.monitor.executors = .empty)
    (hsampler : s.sampler = none) (hphase : s.phase = .uninitialized) : Coherent s where
  aligned := by
    refine ⟨fun id => ?_, fun id => ?_, fun id => ?_, ?_⟩
    · rw [hlanes, hregistry]
      rfl
    · rw [hslots, hregistry]
      rfl
    · rw [hexecutors, hregistry]
      rfl
    · rw [hslots]
      exact .empty
  serves sampler hs := by
    rw [hsampler] at hs
    cases hs
  idle _ := hsampler
  valid h := absurd hphase h

theorem Coherent.new (config : Config) : Coherent (new config) :=
  .of_empty rfl rfl rfl rfl rfl rfl

theorem Coherent.assignments (h : Coherent s) (assignments : Table AssignmentId Placement.Assignment)
    (pending : Table AssignmentId PendingPlacement) (nextAssignment : AssignmentId) :
    Coherent { s with assignments, pending, nextAssignment } :=
  h.frame { h.aligned with } (fun _ => Iff.rfl) rfl rfl rfl

theorem Coherent.setEntry (h : Coherent s) (hid : id ∈ s.registry) (entry : RegisteredDevice) :
    Coherent { s with registry := s.registry.insert id entry } := by
  have hmem : ∀ id', id' ∈ s.registry.insert id entry ↔ id' ∈ s.registry := fun id' =>
    Table.mem_insert_of_mem hid entry
  refine h.frame ⟨?_, ?_, ?_, h.aligned.inStep⟩ hmem rfl rfl rfl
  · exact fun id' => (h.aligned.mem_lanes id').trans (hmem id').symm
  · exact fun id' => (h.aligned.mem_slots id').trans (hmem id').symm
  · exact fun id' => (h.aligned.mem_executors id').trans (hmem id').symm

theorem Coherent.setMonitor (h : Coherent s) {monitor : Thermal.Monitor}
    (hstates : ∀ id, (monitor.executors.get? id).map (·.state) =
      (s.monitor.executors.get? id).map (·.state)) : Coherent { s with monitor } := by
  refine h.frame ⟨h.aligned.mem_lanes, h.aligned.mem_slots, fun id => ?_,
    h.aligned.inStep.of_states_eq hstates⟩ (fun _ => Iff.rfl) rfl rfl rfl
  rw [← h.aligned.mem_executors, Table.mem_iff_get?, Table.mem_iff_get?, ← Option.isSome_iff_exists,
    ← Option.isSome_iff_exists, ← Option.isSome_map, hstates, Option.isSome_map]

theorem Coherent.observe (h : Coherent s) (sample : Sample Float) :
    Coherent (s.observe sample).1 := by
  have haligned := h.aligned.observe sample
  obtain ⟨collector, monitor, heq⟩ := h.aligned.sameButObserved_observe sample
  rw [heq] at haligned ⊢
  exact h.frame haligned (fun _ => Iff.rfl) rfl rfl rfl

theorem Coherent.observeAll (h : Coherent s) (samples : List (Sample Float)) :
    Coherent (s.observeAll samples).1 := by
  induction samples generalizing s with
  | nil => exact h
  | cons sample rest ih => exact ih (h.observe sample)

theorem Coherent.start (h : Coherent s) : Coherent s.start.1 := by
  rw [Session.start]
  split
  · exact h
  · exact h
  · rename_i hphase
    split
    · exact h
    · rename_i hfault
      have hnone : s.sampler = none := h.idle hphase
      refine ⟨{ h.aligned with }, fun sampler hs => ?_, fun hidle => ?_, fun _ => hfault⟩
      · rw [show s.sampler = some sampler from hs] at hnone
        cases hnone
      · cases hidle

theorem Coherent.enter (h : Coherent s) {d : Device} (hid : d.id ∉ s.registry)
    (endpoint : Option String) : Coherent (s.enter d endpoint) := by
  have hslots : s.collector.isRegistered d.id = false :=
    Bool.eq_false_iff.mpr fun hc => hid ((h.aligned.mem_slots _).mp hc)
  have hexecutors : s.monitor.tracks d.id = false :=
    Bool.eq_false_iff.mpr fun hc => hid ((h.aligned.mem_executors _).mp hc)
  constructor
  · constructor
    · intro id
      simp only [Session.enter, Table.mem_insert, h.aligned.mem_lanes]
    · intro id
      simp only [Session.enter, Telemetry.Collector.register, hslots, Bool.false_eq_true, if_false,
        Table.mem_insert, h.aligned.mem_slots]
    · intro id
      simp only [Session.enter, Thermal.Monitor.register, hexecutors, Bool.false_eq_true, if_false,
        Table.mem_insert, h.aligned.mem_executors]
    · simp only [Session.enter, Telemetry.Collector.register, hslots, Thermal.Monitor.register,
        hexecutors, Bool.false_eq_true, if_false]
      exact h.aligned.inStep.insert (.unseen rfl rfl rfl) d.id
  · intro sampler hs
    obtain ⟨before, hbefore, rfl⟩ := Option.map_eq_some_iff.mp hs
    have hserves := h.serves before hbefore
    refine ⟨?_, fun id => ?_, ?_, fun hready => (hserves.lively hready).spawn _⟩
    · exact (Sampler.isShutDown_spawn ..).trans hserves.isOpen
    · rw [Sampler.mem_tasks_spawn hserves.isOpen, hserves.mem_tasks]
      exact Table.mem_insert.symm
    · exact (Sampler.intervalMs_spawn ..).trans hserves.interval
  · intro hidle
    exact congrArg (Option.map _) (h.idle hidle)
  · exact h.valid

theorem Coherent.announce (h : Coherent s) (d : Device) (endpoint : Option String) :
    Coherent (s.announce d endpoint).1 := by
  rw [Session.announce]
  split
  · exact h
  · split
    · rename_i hnone
      exact h.enter (Table.get?_eq_none_iff.mp hnone) endpoint
    · rename_i entry hentry
      split
      · exact h.setEntry (Table.mem_of_get? hentry) _
      · exact h

theorem Coherent.registerDevice (h : Coherent s) (d : Device) :
    Coherent (s.registerDevice d).1 :=
  of_call "register_device" h fun _ => h.announce d none

theorem Coherent.erase (h : Coherent s) (id : DeviceId) :
    Coherent { s with
      registry := s.registry.erase id
      lanes := s.lanes.erase id
      collector := s.collector.remove id
      monitor := s.monitor.remove id
      sampler := s.sampler.map fun sampler => (sampler.stop id).1 } := by
  constructor
  · constructor
    · intro id'
      simp only [Table.mem_erase, h.aligned.mem_lanes]
    · intro id'
      simp only [Telemetry.Collector.remove, Table.mem_erase, h.aligned.mem_slots]
    · intro id'
      simp only [Thermal.Monitor.remove, Table.mem_erase, h.aligned.mem_executors]
    · exact h.aligned.inStep.erase id
  · intro sampler hs
    obtain ⟨before, hbefore, rfl⟩ := Option.map_eq_some_iff.mp hs
    have hserves := h.serves before hbefore
    refine ⟨hserves.isOpen, fun id' => ?_, hserves.interval, fun hready => ?_⟩
    · rw [Sampler.mem_tasks_stop, hserves.mem_tasks]
      exact Table.mem_erase.symm
    · exact (hserves.lively hready).stop id
  · intro hidle
    exact congrArg (Option.map _) (h.idle hidle)
  · exact h.valid

theorem Coherent.removeDevice (h : Coherent s) (id : DeviceId) :
    Coherent (s.removeDevice id).1 := by
  refine of_call "remove_device" h fun _ => ?_
  split
  · exact (h.erase id).assignments _ s.pending s.nextAssignment
  · exact h

theorem Coherent.record (h : Coherent s) (sample : Sample Float) : Coherent (s.record sample).1 :=
  of_call "record_metrics" h fun _ => h.observe sample

theorem Coherent.recordBatch (h : Coherent s) (samples : List (Sample Float)) :
    Coherent (s.recordBatch samples).1 :=
  of_call "record_batch" h fun _ => h.observeAll samples

theorem Coherent.placeShards (h : Coherent s) (r : Placement.Request) :
    Coherent (s.placeShards r).1 := by
  refine of_call "place_shards" h fun _ => ?_
  split
  · exact h
  · exact h.assignments _ s.pending _

theorem Coherent.beginPlacement (h : Coherent s) (r : Placement.Request) :
    Coherent (s.beginPlacement r).1 := by
  refine of_call "place_shards" h fun _ => ?_
  split
  · exact h
  · exact h.assignments s.assignments _ _

theorem Coherent.completePlacement (h : Coherent s) {id : AssignmentId}
    {reply : Reply Placement.Assignment} (hreply : s.completePlacement id = some reply) :
    Coherent reply.1 := by
  obtain ⟨placement, -, rfl⟩ := Option.map_eq_some_iff.mp hreply
  dsimp only
  split
  · exact h.assignments s.assignments _ s.nextAssignment
  · exact h.assignments _ _ s.nextAssignment

theorem Coherent.releaseAssignment (h : Coherent s) (id : AssignmentId) :
    Coherent (s.releaseAssignment id).1 :=
  of_call "release_assignment" h fun _ => h.assignments _ s.pending s.nextAssignment

theorem Coherent.beginCompute (h : Coherent s) (id : DeviceId) :
    Coherent (s.beginCompute id).1 := by
  refine of_call "begin_compute" h fun _ => ?_
  split
  · exact h
  · rename_i monitor permit hbegin
    exact h.setMonitor (state_of_beginCompute hbegin)

theorem Coherent.giveBack (h : Coherent s) (permit : Thermal.Permit) :
    Coherent (s.giveBack permit) :=
  h.setMonitor (state_giveBack s.monitor permit)

theorem Coherent.applyHeartbeat (h : Coherent s) (heartbeat : Wire.Heartbeat) :
    Coherent (s.applyHeartbeat heartbeat).1 := by
  rw [Session.applyHeartbeat]
  split
  · exact h
  · rename_i hentry
    exact (h.setEntry (Table.mem_of_get? hentry) _).observe heartbeat.sample

theorem Coherent.ingest (h : Coherent s) (m : Wire.Message) : Coherent (s.ingest m).1 := by
  refine of_call "ingest" h fun _ => ?_
  split
  · exact h
  · exact h.announce _ _
  · exact h.applyHeartbeat _

theorem Coherent.ingestText (h : Coherent s) (text : String) : Coherent (s.ingestText text).1 := by
  rw [Session.ingestText]
  split
  · exact h
  · exact h.ingest _

/-! ## The sampler -/

theorem spawnAll_induction {P : Sampler → Prop} (hspawn : ∀ s id, P s → P (s.spawn id).1)
    (h : P sampler) (ids : List DeviceId) : P (spawnAll sampler ids).1 := by
  induction ids generalizing sampler with
  | nil => exact h
  | cons id rest ih => exact ih (hspawn _ _ h)

theorem mem_tasks_spawnAll (h : sampler.isShutDown = false) (ids : List DeviceId) :
    id ∈ (spawnAll sampler ids).1.tasks ↔ id ∈ ids ∨ id ∈ sampler.tasks := by
  induction ids generalizing sampler with
  | nil => simp [spawnAll]
  | cons id' rest ih =>
    rw [spawnAll, ih ((Sampler.isShutDown_spawn ..).trans h), Sampler.mem_tasks_spawn h,
      List.mem_cons, or_left_comm, or_assoc]

theorem Coherent.startSampling (h : Coherent s) : Coherent s.startSampling.1 := by
  refine of_call "start_sampling" h fun hready => ?_
  split
  · exact h
  · refine ⟨{ h.aligned with }, ?_, ?_, h.valid⟩
    · rintro _ ⟨⟩
      refine ⟨?_, fun id => ?_, ?_, fun _ => ?_⟩
      · exact spawnAll_induction (fun s id hs => (s.isShutDown_spawn id).trans hs) rfl _
      · rw [mem_tasks_spawnAll rfl, Table.mem_keys_iff]
        exact or_iff_left (Table.not_mem_empty id)
      · exact spawnAll_induction (fun s id hs => (s.intervalMs_spawn id).trans hs) rfl _
      · exact spawnAll_induction (fun s id hs => hs.spawn id) (.start _) _
    · intro hidle
      rw [show s.phase = .uninitialized from hidle] at hready
      cases hready

section Sampling

variable {pull : DeviceId → σ → Option (Sample Float) × σ} {source source' : σ}

/-- What a run of the sampler keeps, one tick after the other. -/
theorem Serves.run (haligned : Aligned s) (h : Serves s sampler)
    (pull : DeviceId → σ → Option (Sample Float) × σ) (limit count : Nat) (source : σ) :
    let out := Sampler.run (surroundings pull) limit count sampler (s, source)
    Aligned out.2.1 ∧ Serves out.2.1 out.1 ∧ SameButObserved s out.2.1 := by
  -- The session that ticks act upon still holds the sampler as it was before the run; the one that
  -- runs stands beside it.
  let P (sampler : Sampler) (state : Session × σ) : Prop :=
    Aligned state.1 ∧ Serves state.1 sampler ∧ SameButObserved s state.1
  refine Sampler.run_induction (P := P) ?_ ⟨haligned, h, _, _, rfl⟩
  rintro sampler tick ⟨_, source⟩ ⟨haligned, hserves, collector, monitor, rfl⟩
  obtain ⟨haligned', ⟨collector', monitor', heq⟩, hopen⟩ :=
    haligned.sample pull tick.deviceId source
  have hstate : (sampler.tick (surroundings pull) tick ({ s with collector, monitor }, source)).2.1 =
      { s with collector := collector', monitor := monitor' } := heq
  rw [heq] at haligned'
  refine ⟨hstate ▸ haligned', ?_, _, _, hstate⟩
  rw [hstate]
  refine ⟨hserves.isOpen, fun id => ?_, hserves.interval, fun hready => ?_⟩
  · exact Table.mem_modify.trans (hserves.mem_tasks id)
  · exact (hserves.lively hready).tick (hopen hready)

theorem Serves.wake (h : Serves s sampler)
    (hinterval : s.phase = .ready → s.config.telemetry.intervalMs ≠ 0) :
    Serves s { sampler with
      tasks := sampler.tasks.map fun _ task => task.wake sampler.intervalMs sampler.now } where
  isOpen := h.isOpen
  mem_tasks id := Table.mem_map.trans (h.mem_tasks id)
  interval := h.interval
  lively hready := (h.lively hready).wake (h.interval ▸ hinterval hready)

theorem Coherent.sampled (h : Coherent s) (hsampler : s.sampler ≠ none) (haligned : Aligned t)
    (hserves : Serves t sampler) (hsame : SameButObserved s t) :
    Coherent { t with sampler := some sampler } := by
  obtain ⟨collector, monitor, rfl⟩ := hsame
  refine ⟨{ haligned with }, ?_, fun hidle => absurd (h.idle hidle) hsampler, h.valid⟩
  rintro _ ⟨⟩
  exact { hserves with }

theorem Coherent.advance (h : Coherent s) (pull : DeviceId → σ → Option (Sample Float) × σ) (ms : Nat)
    (source : σ) : Coherent (s.advance pull ms source).1 := by
  have hgrace : Coherent { s with graceLeft := s.graceLeft - ms } :=
    h.frame { h.aligned with } (fun _ => Iff.rfl) rfl rfl rfl
  rw [Session.advance]
  split
  · exact hgrace
  · rename_i sampler hsampler
    have hawake := (hgrace.serves sampler hsampler).wake fun hready =>
      hgrace.interval (by rw [hready]; exact Phase.noConfusion)
    obtain ⟨haligned, hserves, hsame⟩ :=
      hawake.run hgrace.aligned pull (sampler.now + ms) (sampler.tickBound ms) source
    have hsome : s.sampler ≠ none := by
      rw [show s.sampler = some sampler from hsampler]
      exact Option.some_ne_none sampler
    exact hgrace.sampled hsome haligned { hserves with } hsame

end Sampling

/-! ## Shutting down -/

theorem Coherent.forget (s : Session) : Coherent s.forget :=
  .of_empty rfl rfl rfl rfl rfl rfl

theorem Coherent.beginShutdown (h : Coherent s) : Coherent s.beginShutdown := by
  rw [Session.beginShutdown]
  split
  · rename_i hready
    dsimp only
    split
    · exact .forget s
    · have hphase : s.phase ≠ .uninitialized := by
        rw [hready]
        exact Phase.noConfusion
      refine ⟨{ h.aligned with }, fun sampler hs => ?_, fun hidle => ?_, fun _ => h.valid hphase⟩
      · exact { h.serves sampler hs with lively := fun hready' => by cases hready' }
      · cases hidle
  · exact h

theorem Coherent.completeShutdown (h : Coherent s)
    (pull : DeviceId → σ → Option (Sample Float) × σ) (source : σ) :
    Coherent (s.completeShutdown pull source).1 := by
  rw [Session.completeShutdown]
  split
  · split
    · exact .forget s
    · exact .forget _
  · exact h

/-! ## Runs -/

theorem Coherent.perform (h : Coherent s) {α : Type} (call : Call α) :
    Coherent (s.perform call).1 := by
  cases call with
  | start => exact h.start
  | registerDevice d => exact h.registerDevice d
  | removeDevice id => exact h.removeDevice id
  | record sample => exact h.record sample
  | recordBatch samples => exact h.recordBatch samples
  | startSampling => exact h.startSampling
  | placeShards r => exact h.placeShards r
  | beginPlacement r => exact h.beginPlacement r
  | releaseAssignment id => exact h.releaseAssignment id
  | beginCompute id => exact h.beginCompute id
  | ingest m => exact h.ingest m
  | ingestText text => exact h.ingestText text
  -- The others are questions.
  | _ => exact h

theorem Reachable.coherent (h : Reachable s) : Coherent s := by
  induction h with
  | new config => exact .new config
  | perform h call ih => exact ih.perform call
  | completePlacement h hreply ih => exact ih.completePlacement hreply
  | giveBack h permit ih => exact ih.giveBack permit
  | advance h pull ms source ih => exact ih.advance pull ms source
  | beginShutdown h ih => exact ih.beginShutdown
  | completeShutdown h pull source ih => exact ih.completeShutdown pull source

/-- What a session that is ready answers about a device: nothing yet, or all from one sample. -/
theorem Aligned.answers (h : Aligned s) (hready : s.phase = .ready) (hid : id ∈ s.registry) :
    (s.currentSample id = .ok none ∧ s.thermalState id = .ok none ∧ s.history id = .ok []) ∨
    ∃ sample state earlier, s.currentSample id = .ok (some sample) ∧
      s.thermalState id = .ok (some state) ∧ state.current = sample.temperature ∧
      state.updatedAt = sample.takenAt ∧ s.history id = .ok (earlier ++ [sample]) := by
  obtain ⟨slot, hslot⟩ := Table.mem_iff_get?.mp ((h.mem_slots id).mpr hid)
  obtain ⟨e, he⟩ := Table.mem_iff_get?.mp ((h.mem_executors id).mpr hid)
  have hcurrent : s.currentSample id = .ok slot.current := by
    rw [currentSample, queryDevice_of_mem hready hid, Telemetry.Collector.current?, hslot]
    rfl
  have hstate : s.thermalState id = .ok e.state := by
    rw [thermalState, queryDevice_of_mem hready hid, Thermal.Monitor.state?, he]
    rfl
  have hhistory : s.history id = .ok slot.history.toList := by
    rw [history, queryDevice_of_mem hready hid, Telemetry.Collector.history, hslot]
  rw [hcurrent, hstate, hhistory]
  cases h.inStep id slot e hslot he with
  | unseen hcurrent hhistory hstate =>
    left
    rw [hcurrent, hstate, hhistory]
    exact ⟨rfl, rfl, rfl⟩
  | seen sample state hcurrent hlatest hstate htemperature htime =>
    right
    obtain ⟨earlier, hearlier⟩ := List.getLast?_eq_some_iff.mp hlatest
    rw [hcurrent, hstate, hearlier]
    exact ⟨sample, state, earlier, rfl, rfl, htemperature, htime, rfl⟩

/--
In every session that is ready, the registry, the lanes, the collector and the monitor hold the same
devices, and so do the tasks of a sampler that runs, all of which are active. A registered device has
a sample exactly when it has a thermal state, and this state is that of the sample, which is the last
one of its history.
-/
theorem tables_agree (h : Reachable s) (hready : s.phase = .ready) :
    (∀ id, (id ∈ s.lanes ↔ id ∈ s.registry) ∧ (id ∈ s.collector.slots ↔ id ∈ s.registry) ∧
      (id ∈ s.monitor.executors ↔ id ∈ s.registry)) ∧
    (∀ sampler, s.sampler = some sampler → ∀ id,
      (id ∈ sampler.tasks ↔ id ∈ s.registry) ∧ (id ∈ sampler.running ↔ id ∈ s.registry)) ∧
    ∀ id ∈ s.registry,
      (s.currentSample id = .ok none ∧ s.thermalState id = .ok none ∧ s.history id = .ok []) ∨
      ∃ sample state earlier, s.currentSample id = .ok (some sample) ∧
        s.thermalState id = .ok (some state) ∧ state.current = sample.temperature ∧
        state.updatedAt = sample.takenAt ∧ s.history id = .ok (earlier ++ [sample]) := by
  obtain ⟨haligned, hserves, -, -⟩ := h.coherent
  refine ⟨fun id => ?_, fun sampler hsampler id => ?_, fun id hid => haligned.answers hready hid⟩
  · exact ⟨haligned.mem_lanes id, haligned.mem_slots id, haligned.mem_executors id⟩
  · have htasks := (hserves sampler hsampler).mem_tasks id
    have hlively := (hserves sampler hsampler).lively hready
    exact ⟨htasks, (Sampler.mem_running_iff hlively).trans htasks⟩

/-- A device that is registered while sampling runs, and has one sample. -/
theorem tables_agree_of_one_sample :
    let gpu : Device := ⟨"gpu", "A", .nvidia, "ada", 16, 4, [.fp32], .desktop, 900, none⟩
    let sample : Sample Float := ⟨"gpu", .epoch, 4, 16, 50, 200, 60, 1500⟩
    let sampling := (((new {}).perform .start).1.perform .startSampling).1
    let s := ((sampling.perform (.registerDevice gpu)).1.perform (.record sample)).1
    Reachable s ∧ s.phase = .ready ∧ "gpu" ∈ s.lanes ∧
      (∃ sampler, s.sampler = some sampler ∧ "gpu" ∈ sampler.running) ∧
      ∃ sample state, s.currentSample "gpu" = .ok (some sample) ∧
        s.thermalState "gpu" = .ok (some state) ∧ state.current = sample.temperature := by
  intro gpu sample sampling s
  have hreachable : Reachable s :=
    ((((Reachable.new {}).perform .start).perform .startSampling).perform
      (.registerDevice gpu)).perform (.record sample)
  have hready : s.phase = .ready := by decide +kernel
  have hid : "gpu" ∈ s.registry := by decide +kernel
  obtain ⟨sampler, hsampler⟩ : ∃ sampler, s.sampler = some sampler :=
    Option.isSome_iff_exists.mp (by decide +kernel)
  obtain ⟨hdevices, htasks, hsamples⟩ := tables_agree hreachable hready
  refine ⟨hreachable, hready, (hdevices "gpu").1.mpr hid,
    ⟨sampler, hsampler, (htasks sampler hsampler "gpu").2.mpr hid⟩, ?_⟩
  rcases hsamples "gpu" hid with ⟨hnone, -, -⟩ | ⟨taken, state, _, hcurrent, hstate, heq, -⟩
  · have hsome : (s.currentSample "gpu").toOption.join.isSome := by decide +kernel
    rw [hnone] at hsome
    cases hsome
  · exact ⟨taken, state, hcurrent, hstate, heq⟩

end GpuCluster.Session
