import Mathlib
import GpuCluster.Proofs.Placement.Correctness
import GpuCluster.Proofs.Session.Calls

/-!
# The pool of a session

The pool has the registered devices that are eligible, each under its own id and with the memory that is
free by its current sample. A request that some choice from the pool meets is placed.
-/

namespace GpuCluster.Session

variable {s : Session} {r : Placement.Request} {a : Placement.Assignment}

/-- What is known of a registered device with the given current sample. -/
structure Known (id : DeviceId) (entry : RegisteredDevice) (current : Option (Sample Float)) :
    Prop where
  device_id : entry.device.id = id
  device_fault : entry.device.fault? = none
  sample : ∀ sample, current = some sample → sample.deviceId = id ∧ sample.fault? = none
  /-- Only a heartbeat makes a device unavailable, and it brings a sample. -/
  unsampled : current = none → entry.isAvailable = true ∧ entry.lastError = none

/-- Devices stand at their own ids and without a fault, and so do their current samples. -/
def Listed (s : Session) : Prop :=
  ∀ id entry, s.registry.get? id = some entry → Known id entry (s.collector.current? id)

/-- The memory that a registered device has free by its current sample. -/
def freeOn? (s : Session) (id : DeviceId) : Option Nat :=
  (s.registry.get? id).bind fun entry =>
    (s.collector.current? id).map fun sample => entry.device.memory - sample.used.toNat

theorem freeOn?_eq_some_iff {id : DeviceId} {free : Nat} :
    s.freeOn? id = some free ↔ ∃ entry sample, s.registry.get? id = some entry ∧
      s.collector.current? id = some sample ∧ entry.device.memory - sample.used.toNat = free := by
  simp [freeOn?, Option.bind_eq_some_iff]

theorem mem_registry_of_freeOn? {id : DeviceId} {free : Nat} (h : s.freeOn? id = some free) :
    id ∈ s.registry := by
  obtain ⟨entry, -, hentry, -⟩ := freeOn?_eq_some_iff.mp h
  exact Table.mem_of_get? hentry

/-! ## Candidates -/

theorem candidate?_eq_some_iff {entry : RegisteredDevice} {c : Candidate Float} :
    s.candidate? entry = some c ↔
      entry.isAvailable = true ∧ ∃ sample, s.collector.current? entry.device.id = some sample ∧
        ∃ mode, (s.monitor.mode? entry.device.id).getD .running = mode ∧ mode ≠ .paused ∧
          c = ⟨entry.device, sample, mode = .precisionReduced⟩ := by
  rw [candidate?]
  by_cases havailable : entry.isAvailable
  · cases hsample : s.collector.current? entry.device.id with
    | none => simp [havailable]
    | some sample =>
      cases hmode : (s.monitor.mode? entry.device.id).getD .running <;> simp [havailable, eq_comm]
  · simp [havailable]

theorem of_candidate? {entry : RegisteredDevice} {c : Candidate Float}
    (h : s.candidate? entry = some c) :
    c.device = entry.device ∧ s.collector.current? entry.device.id = some c.sample := by
  obtain ⟨-, sample, hsample, mode, -, -, rfl⟩ := candidate?_eq_some_iff.mp h
  exact ⟨rfl, hsample⟩

theorem exists_candidate? {entry : RegisteredDevice} {sample : Sample Float}
    (havailable : entry.isAvailable = true)
    (hsample : s.collector.current? entry.device.id = some sample)
    (hmode : s.monitor.mode? entry.device.id ≠ some .paused) :
    ∃ reduced, s.candidate? entry = some ⟨entry.device, sample, reduced⟩ := by
  refine ⟨_, candidate?_eq_some_iff.mpr ⟨havailable, sample, hsample, _, rfl, fun hpaused => ?_, rfl⟩⟩
  cases hfound : s.monitor.mode? entry.device.id with
  | none =>
    rw [hfound] at hpaused
    cases hpaused
  | some mode =>
    rw [hfound] at hpaused hmode
    exact hmode (congrArg some hpaused)

namespace Listed

/-- The devices of the pool are told apart by their ids. -/
theorem nodup_pool (h : Listed s) : (s.pool.map (·.id)).Nodup := by
  rw [pool, eligible, List.map_map, List.Nodup, List.pairwise_map, List.pairwise_filterMap,
    Table.values, List.pairwise_map]
  refine s.registry.sorted.imp_of_mem fun {e e'} he he' hlt c hc c' hc' heq => ?_
  have hid : c.device.id = e.1 := by
    rw [(of_candidate? hc).1]
    exact (h e.1 e.2 (Table.get?_eq_some_iff.mpr he)).device_id
  have hid' : c'.device.id = e'.1 := by
    rw [(of_candidate? hc').1]
    exact (h e'.1 e'.2 (Table.get?_eq_some_iff.mpr he')).device_id
  have hsame : e.1 = e'.1 := hid.symm.trans (Eq.trans heq hid')
  simp [hsame] at hlt

theorem freeOn?_of_mem_pool (h : Listed s) {d : Placement.PoolDevice} (hd : d ∈ s.pool) :
    s.freeOn? d.id = some d.free := by
  obtain ⟨c, hc, rfl⟩ := List.mem_map.mp hd
  obtain ⟨entry, hentry, hcandidate⟩ := List.mem_filterMap.mp hc
  obtain ⟨⟨id, entry'⟩, he, rfl⟩ := List.mem_map.mp hentry
  obtain ⟨hdevice, hsample⟩ := of_candidate? hcandidate
  have hget : s.registry.get? id = some entry' := Table.get?_eq_some_iff.mpr he
  obtain ⟨rfl, hfault, -, -⟩ := h id entry' hget
  have hcapacity : c.device.capacity c.sample = entry'.device.memory :=
    hdevice ▸ Device.capacity_of_fault?_eq_none hfault c.sample
  refine freeOn?_eq_some_iff.mpr ⟨entry', c.sample, ?_, ?_, ?_⟩
  · rw [Placement.PoolDevice.of, hdevice]
    exact hget
  · rw [Placement.PoolDevice.of, hdevice]
    exact hsample
  · rw [Placement.PoolDevice.of, hcapacity]

end Listed

/-! ## Placements -/

theorem find?_isRegistered_eq_none_iff {ids : List DeviceId} :
    ids.find? (!s.isRegistered ·) = none ↔ ∀ d ∈ ids, d ∈ s.registry := by
  rw [List.find?_eq_none]
  refine forall₂_congr fun d _ => ?_
  rw [Bool.not_eq_true, Bool.not_eq_false']
  rfl

theorem of_solve_eq_ok {outcome : Except Placement.Refusal Placement.Assignment}
    (h : s.solve r = .ok outcome) :
    Placement.solve s.config.placement r s.pool = outcome := by
  rw [solve] at h
  split at h
  · cases h
  · exact Except.ok.inj h

theorem of_confirm_eq_ok {outcome : Except Placement.Refusal Placement.Assignment}
    (h : s.confirm outcome = .ok a) :
    outcome = .ok a ∧ ∀ d ∈ a.bytes, d ∈ s.registry := by
  cases outcome with
  | error cause => cases h
  | ok a' =>
    rw [confirm] at h
    split at h
    · cases h
    · rename_i hnone
      obtain rfl := Except.ok.inj h
      exact ⟨rfl, fun d hd => find?_isRegistered_eq_none_iff.mp hnone d (Table.mem_keys_iff.mpr hd)⟩

theorem of_bind_confirm_eq_ok (h : (s.solve r).bind s.confirm = .ok a) :
    Placement.solve s.config.placement r s.pool = .ok a ∧ ∀ d ∈ a.bytes, d ∈ s.registry := by
  cases hsolve : s.solve r with
  | error e =>
    rw [hsolve] at h
    cases h
  | ok outcome =>
    rw [hsolve] at h
    obtain ⟨rfl, hregistered⟩ := of_confirm_eq_ok h
    exact ⟨of_solve_eq_ok hsolve, hregistered⟩

theorem solve_of_placeShards {t : Session} {id : AssignmentId} (hready : s.phase = .ready)
    (h : s.placeShards r = (t, .ok (id, a))) :
    Placement.solve s.config.placement r s.pool = .ok a := by
  rw [placeShards, call_of_ready hready] at h
  split at h
  · cases h
  · rename_i a' hplaced
    obtain ⟨-, hok⟩ := Prod.mk.inj h
    obtain ⟨-, rfl⟩ := Prod.mk.inj (Except.ok.inj hok)
    exact (of_bind_confirm_eq_ok hplaced).1

theorem Listed.mem_registry_of_solve (h : Listed s) {policy : PlacementPolicy}
    (hsolve : Placement.solve policy r s.pool = .ok a) {id : DeviceId} (hid : id ∈ a.bytes) :
    id ∈ s.registry := by
  obtain ⟨-, device, hmeets, hfollows⟩ := Placement.exists_follows_of_solve h.nodup_pool hsolve
  obtain ⟨bytes, hb⟩ := Table.mem_iff_get?.mp hid
  obtain ⟨d, hd, rfl, -⟩ := hfollows.bytes_le_free hmeets hb
  exact mem_registry_of_freeOn? (h.freeOn?_of_mem_pool hd)

/-- A placement whose candidates are registered is as its request is solved on the pool. -/
theorem Listed.placeShards_eq (h : Listed s) (hready : s.phase = .ready)
    (hcandidates : ∀ d ∈ r.candidates, d ∈ s.registry) :
    s.placeShards r =
      match Placement.solve s.config.placement r s.pool with
      | .error cause => (s, .error (.ofPlacement cause))
      | .ok a =>
        ({ s with
          assignments := s.assignments.insert s.nextAssignment a
          nextAssignment := s.nextAssignment + 1 }, .ok (s.nextAssignment, a)) := by
  rw [placeShards, call_of_ready hready, solve, find?_isRegistered_eq_none_iff.mpr hcandidates]
  cases hsolve : Placement.solve s.config.placement r s.pool with
  | error cause => rfl
  | ok a =>
    have hregistered : ∀ id ∈ a.bytes.keys, id ∈ s.registry := fun id hid =>
      h.mem_registry_of_solve hsolve (Table.mem_keys_iff.mp hid)
    simp only [Except.bind, confirm, find?_isRegistered_eq_none_iff.mpr hregistered]

/-- With time for the search, a request that some choice from the pool meets is placed, and its
assignment follows such a choice. -/
theorem placeShards_of_meets (h : Listed s) (hready : s.phase = .ready)
    (ht : s.config.placement.timeoutMs ≠ 0) (hn : r.sizes ≠ [])
    (hcandidates : ∀ d ∈ r.candidates, d ∈ s.registry)
    {device : Fin r.sizes.length → Placement.PoolDevice} (hmeets : Placement.Meets r s.pool device) :
    ∃ t a, s.placeShards r = (t, .ok (s.nextAssignment, a)) ∧
      t = { s with
        assignments := s.assignments.insert s.nextAssignment a
        nextAssignment := s.nextAssignment + 1 } ∧
      ∃ device, Placement.Meets r s.pool device ∧ Placement.Follows r device a := by
  obtain ⟨a, hsolve⟩ :=
    (Placement.solve_isOk_iff_exists_meets hn h.nodup_pool ht).1.mpr ⟨device, hmeets⟩
  obtain ⟨-, device', hmeets', hfollows⟩ := Placement.exists_follows_of_solve h.nodup_pool hsolve
  refine ⟨_, a, ?_, rfl, device', hmeets', hfollows⟩
  rw [h.placeShards_eq hready hcandidates, hsolve]

/-! ## A single device -/

theorem exists_pool_eq_singleton {id : DeviceId} {entry : RegisteredDevice} {sample : Sample Float}
    (hentries : s.registry.entries = [(id, entry)]) (havailable : entry.isAvailable = true)
    (hsample : s.collector.current? entry.device.id = some sample)
    (hmode : s.monitor.mode? entry.device.id ≠ some .paused) :
    ∃ score, s.pool = [.of entry.device sample score] := by
  obtain ⟨reduced, hcandidate⟩ := exists_candidate? havailable hsample hmode
  refine ⟨(Score.ofDoubles s.config.scoring ⟨entry.device, sample, reduced⟩).value, ?_⟩
  rw [pool, eligible, Table.values, hentries, List.map_singleton, List.filterMap_cons_some hcandidate]
  rfl

/-- One shard goes to the only device of the pool, if it has room for it. -/
theorem placeShards_singleton (h : Listed s) (hready : s.phase = .ready)
    (ht : s.config.placement.timeoutMs ≠ 0) {d : Placement.PoolDevice} (hpool : s.pool = [d])
    {size : Nat} (hsize : size ≤ d.free) :
    ∃ t a, s.placeShards ⟨[size], [], none, none⟩ = (t, .ok (s.nextAssignment, a)) ∧
      t = { s with
        assignments := s.assignments.insert s.nextAssignment a
        nextAssignment := s.nextAssignment + 1 } ∧
      a.deviceFor? 0 = some d.id ∧ a.bytes.get? d.id = some size := by
  have hmeets : Placement.Meets ⟨[size], [], none, none⟩ s.pool fun _ => d := by
    rw [hpool]
    refine ⟨fun _ => List.mem_singleton_self d, fun _ => ⟨Or.inl rfl, nofun, nofun⟩, ?_⟩
    simpa using hsize
  obtain ⟨t, a, heq, ht, device, hmeets', hfollows⟩ :=
    placeShards_of_meets h hready ht (List.cons_ne_nil size []) (List.forall_mem_nil _) hmeets
  have hdevice : ∀ i, device i = d := fun i => by
    have hmem := hmeets'.mem i
    rwa [hpool, List.mem_singleton] at hmem
  refine ⟨t, a, heq, ht, ?_, ?_⟩
  · rw [Placement.Assignment.deviceFor?, ← hdevice 0]
    exact hfollows.placements 0
  · rw [hfollows.bytes]
    simp [hdevice]

end GpuCluster.Session
