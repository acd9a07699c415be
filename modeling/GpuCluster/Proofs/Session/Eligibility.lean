import Mathlib
import GpuCluster.Proofs.Session.Promises
import GpuCluster.Proofs.Session.Selection

/-!
# Which devices may be used

A registered device may be used when it is available, has a current sample and is not paused. The
ranking, the selection and the placements of a session draw on these devices and on no others, and on
the memory that each of them has free by its current sample.
-/

namespace GpuCluster.Session

open Placement (PoolDevice Request)

/-- A registered device that may be used, with its current sample. -/
structure Offers (s : Session) (id : DeviceId) (entry : RegisteredDevice) (sample : Sample Float) :
    Prop where
  device : s.device id = .ok entry
  isAvailable : entry.isAvailable = true
  sample : s.currentSample id = .ok (some sample)
  mode : ∃ mode, s.monitor.mode? id = some mode ∧ mode ≠ .paused

/-- The restrictions of a request, on a device as it is registered. -/
structure Allows (r : Request) (d : Device) : Prop where
  candidate : r.candidates = [] ∨ d.id ∈ r.candidates
  group : ∀ group, r.group = some group → d.group = some group
  precision : ∀ p, r.precision = some p → p ∈ d.precisions

/-- A choice of a device for every shard that the devices which may be used have room for. -/
structure Packs (s : Session) (r : Request) (choice : Fin r.sizes.length → DeviceId) : Prop where
  offers : ∀ i, ∃ entry sample, Offers s (choice i) entry sample ∧ Allows r entry.device
  room : ∀ id entry sample, Offers s id entry sample →
    (∑ i, if choice i = id then r.sizes.get i else 0) ≤ entry.device.memory - sample.used.toNat

variable {s : Session} {r : Request} {id : DeviceId} {entry : RegisteredDevice}
  {sample : Sample Float}

theorem device_eq_ok_iff (hready : s.phase = .ready) :
    s.device id = .ok entry ↔ s.registry.get? id = some entry := by
  rw [device, queryDevice_of_ready hready]
  cases s.registry.get? id with
  | none => simp
  | some entry => simp

theorem currentSample_eq_ok_iff (hready : s.phase = .ready) (hid : id ∈ s.registry) :
    s.currentSample id = .ok (some sample) ↔ s.collector.current? id = some sample := by
  rw [currentSample, queryDevice_of_mem hready hid, Except.ok.injEq]

theorem admits_of_iff {d : Device} {score : Number.Extended} :
    r.Admits (.of d sample score) ↔ Allows r d := by
  constructor
  · intro h
    exact ⟨h.candidate, h.group, h.precision⟩
  · intro h
    exact ⟨h.candidate, h.group, h.precision⟩

theorem Offers.get? (ho : Offers s id entry sample) (hready : s.phase = .ready) :
    s.registry.get? id = some entry :=
  (device_eq_ok_iff hready).mp ho.device

section Offers

variable (h : Reachable s) (hready : s.phase = .ready)
include h hready

theorem offers_of_mem_eligible {c : Candidate Float} (hc : c ∈ s.eligible) :
    ∃ entry, Offers s c.device.id entry c.sample ∧ c.device = entry.device := by
  obtain ⟨entry, hentry, hcandidate⟩ := List.mem_filterMap.mp hc
  obtain ⟨⟨id, entry'⟩, he, rfl⟩ := List.mem_map.mp hentry
  have hget : s.registry.get? id = some entry' := Table.get?_eq_some_iff.mpr he
  obtain rfl := (h.listed id entry' hget).device_id
  obtain ⟨havailable, sample, hsample, mode, hmode, hrunning, rfl⟩ :=
    candidate?_eq_some_iff.mp hcandidate
  have hid : entry'.device.id ∈ s.registry := Table.mem_of_get? hget
  refine ⟨entry', ⟨(device_eq_ok_iff hready).mpr hget, havailable, ?_, mode, ?_, hrunning⟩, rfl⟩
  · exact (currentSample_eq_ok_iff hready hid).mpr hsample
  · -- Every registered device has an executor, so that its mode is known.
    obtain ⟨e, he⟩ := Table.mem_iff_get?.mp ((h.coherent.aligned.mem_executors _).mpr hid)
    rw [Thermal.Monitor.mode?, he] at hmode ⊢
    exact congrArg some hmode

theorem Offers.device_id (ho : Offers s id entry sample) : entry.device.id = id :=
  (h.listed id entry (ho.get? hready)).device_id

theorem Offers.exists_mem_eligible (ho : Offers s id entry sample) :
    ∃ reduced, ⟨entry.device, sample, reduced⟩ ∈ s.eligible := by
  have hget := ho.get? hready
  obtain rfl := ho.device_id h hready
  have hsample := (currentSample_eq_ok_iff hready (Table.mem_of_get? hget)).mp ho.sample
  obtain ⟨mode, hmode, hrunning⟩ := ho.mode
  obtain ⟨reduced, hcandidate⟩ := exists_candidate? ho.isAvailable hsample fun hpaused =>
    hrunning (Option.some.inj (hmode.symm.trans hpaused))
  refine ⟨reduced, List.mem_filterMap.mpr ⟨entry, ?_, hcandidate⟩⟩
  exact List.mem_map_of_mem (Table.get?_eq_some_iff.mp hget)

theorem free_poolDevice (ho : Offers s id entry sample) (p : ScoringPolicy Float) (reduced : Bool) :
    (poolDevice p ⟨entry.device, sample, reduced⟩).free = entry.device.memory - sample.used.toNat :=
  congrArg (· - sample.used.toNat)
    (Device.capacity_of_fault?_eq_none (h.listed id entry (ho.get? hready)).device_fault sample)

theorem mem_pool_iff {d : PoolDevice} :
    d ∈ s.pool ↔ ∃ entry sample reduced, Offers s d.id entry sample ∧
      ⟨entry.device, sample, reduced⟩ ∈ s.eligible ∧
      d = poolDevice s.config.scoring ⟨entry.device, sample, reduced⟩ := by
  constructor
  · intro hd
    obtain ⟨⟨device, sample, reduced⟩, hc, rfl⟩ := List.mem_map.mp hd
    obtain ⟨entry, ho, hdevice⟩ := offers_of_mem_eligible h hready hc
    obtain rfl : device = entry.device := hdevice
    exact ⟨entry, sample, reduced, ho, hc, rfl⟩
  · rintro ⟨entry, sample, reduced, -, hc, rfl⟩
    exact List.mem_map_of_mem hc

/-! ## Placements -/

theorem meets_of_packs {choice : Fin r.sizes.length → DeviceId} (hpacks : Packs s r choice) :
    ∃ device, Placement.Meets r s.pool device := by
  have hex : ∀ i, ∃ d ∈ s.pool, d.id = choice i ∧ r.Admits d := by
    intro i
    obtain ⟨entry, sample, ho, hallows⟩ := hpacks.offers i
    obtain ⟨reduced, hc⟩ := ho.exists_mem_eligible h hready
    exact ⟨_, List.mem_map_of_mem hc, ho.device_id h hready, admits_of_iff.mpr hallows⟩
  choose device hmem hid hadmits using hex
  refine ⟨device, hmem, hadmits, fun d hd => ?_⟩
  obtain ⟨entry, sample, reduced, ho, -, hof⟩ := (mem_pool_iff h hready).mp hd
  have hroom := hpacks.room d.id entry sample ho
  rw [← free_poolDevice h hready ho s.config.scoring reduced, ← hof] at hroom
  simp only [hid]
  exact hroom

theorem packs_of_meets {device : Fin r.sizes.length → PoolDevice}
    (hmeets : Placement.Meets r s.pool device) : Packs s r fun i => (device i).id := by
  constructor
  · intro i
    obtain ⟨entry, sample, reduced, ho, -, hof⟩ := (mem_pool_iff h hready).mp (hmeets.mem i)
    refine ⟨entry, sample, ho, ?_⟩
    have hadmits := hmeets.admits i
    rw [hof] at hadmits
    exact admits_of_iff.mp hadmits
  · intro id entry sample ho
    obtain ⟨reduced, hc⟩ := ho.exists_mem_eligible h hready
    have hroom := hmeets.room (poolDevice s.config.scoring ⟨entry.device, sample, reduced⟩)
      (List.mem_map_of_mem hc)
    rw [free_poolDevice h hready ho] at hroom
    have hid : (poolDevice s.config.scoring ⟨entry.device, sample, reduced⟩).id = id :=
      ho.device_id h hready
    rwa [hid] at hroom

/-! ## The ranking and the selection -/

theorem mem_eligible_ids_iff :
    id ∈ s.eligible.map (·.device.id) ↔ ∃ entry sample, Offers s id entry sample := by
  constructor
  · intro hid
    obtain ⟨c, hc, rfl⟩ := List.mem_map.mp hid
    obtain ⟨entry, ho, -⟩ := offers_of_mem_eligible h hready hc
    exact ⟨entry, c.sample, ho⟩
  · rintro ⟨entry, sample, ho⟩
    obtain ⟨reduced, hc⟩ := ho.exists_mem_eligible h hready
    exact List.mem_map.mpr ⟨_, hc, ho.device_id h hready⟩

theorem bestCandidate?_cases (minFree : Nat) :
    (∃ c entry, s.bestCandidate? minFree = some c ∧ Offers s c.device.id entry c.sample ∧
      minFree ≤ entry.device.memory - c.sample.used.toNat) ∨
    (s.bestCandidate? minFree = none ∧ ∀ id entry sample, Offers s id entry sample →
      entry.device.memory - sample.used.toNat < minFree) := by
  have hmem : ∀ c, c ∈ rankCandidates s.config.scoring s.eligible ↔ c ∈ s.eligible := fun c =>
    List.mem_mergeSort
  cases hbest : s.bestCandidate? minFree with
  | some c =>
    left
    obtain ⟨entry, ho, hdevice⟩ := offers_of_mem_eligible h hready
      ((hmem c).mp (List.mem_of_find?_eq_some hbest))
    have hpassed := List.find?_some hbest
    have hfree := of_decide_eq_true hpassed
    obtain ⟨device, sample, reduced⟩ := c
    obtain rfl : device = entry.device := hdevice
    rw [free_poolDevice h hready ho] at hfree
    exact ⟨_, entry, rfl, ho, hfree⟩
  | none =>
    right
    refine ⟨rfl, fun id entry sample ho => ?_⟩
    obtain ⟨reduced, hc⟩ := ho.exists_mem_eligible h hready
    have hnot := List.find?_eq_none.mp hbest _ ((hmem _).mpr hc)
    rw [free_poolDevice h hready ho] at hnot
    simpa using hnot

end Offers

/--
The ranking of a session lists the devices that may be used, each one once. The selection gives one of
them with enough memory free, if there is one. A placement puts every shard on one of them that the
request allows, and on each of them no more than it has free; with time for the search it finds a way
to do so for the shards of any request, if there is one.
-/
theorem offers_decide (h : Reachable s) (hready : s.phase = .ready) :
    (∃ scores, s.rankDevices = .ok scores ∧ (scores.map (·.deviceId)).Nodup ∧
      ∀ id, id ∈ scores.map (·.deviceId) ↔ ∃ entry sample, Offers s id entry sample) ∧
    (∀ minFree,
      (∃ best entry sample, s.selectBestDevice minFree = .ok (some best) ∧
        Offers s best.deviceId entry sample ∧ minFree ≤ entry.device.memory - sample.used.toNat) ∨
      (s.selectBestDevice minFree = .ok none ∧ ∀ id entry sample, Offers s id entry sample →
        entry.device.memory - sample.used.toNat < minFree)) ∧
    (∀ r t number a, s.placeShards r = (t, .ok (number, a)) →
      ∃ choice : Fin r.sizes.length → DeviceId, Packs s r choice ∧
        (∀ i : Fin r.sizes.length, a.deviceFor? i = some (choice i)) ∧
        (∀ d, d ∈ a.bytes ↔ ∃ i, choice i = d) ∧
        ∀ d, bytesOn a d = ∑ i, if choice i = d then r.sizes.get i else 0) ∧
    ∀ r choice, s.config.placement.timeoutMs ≠ 0 → r.sizes ≠ [] →
      (∀ d ∈ r.candidates, d ∈ s.registry) → Packs s r choice →
      ∃ t a, s.placeShards r = (t, .ok (s.nextAssignment, a)) := by
  have hranked := Score.rankAll_ids_perm s.config.scoring s.eligible
  refine ⟨⟨Score.rankAll s.config.scoring s.eligible, ?_, ?_, fun id => ?_⟩, ?_, ?_, ?_⟩
  · rw [rankDevices, query_of_ready hready]
  · have hids := h.listed.nodup_pool
    rw [pool, List.map_map] at hids
    exact hranked.nodup_iff.mpr hids
  · rw [hranked.mem_iff, mem_eligible_ids_iff h hready]
  · intro minFree
    rw [selectBestDevice_eq hready]
    rcases bestCandidate?_cases h hready minFree with ⟨c, entry, hbest, ho, hfree⟩ | ⟨hbest, hnone⟩
    · left
      exact ⟨_, entry, c.sample, by rw [hbest]; rfl, ho, hfree⟩
    · right
      exact ⟨by rw [hbest]; rfl, hnone⟩
  · intro r t number a hok
    obtain ⟨-, device, hmeets, hfollows⟩ := Placement.exists_follows_of_solve h.listed.nodup_pool
      (solve_of_placeShards hready hok)
    refine ⟨_, packs_of_meets h hready hmeets, hfollows.placements, fun d => ?_, fun d => ?_⟩
    · rw [Table.mem_iff_get?, hfollows.bytes]
      split
      · rename_i hused
        exact iff_of_true ⟨_, rfl⟩ hused
      · rename_i hunused
        refine iff_of_false ?_ hunused
        rintro ⟨bytes, hbytes⟩
        cases hbytes
    · rw [bytesOn, hfollows.bytes]
      split
      · rfl
      · rename_i hunused
        exact (Finset.sum_eq_zero fun i _ => if_neg fun hi => hunused ⟨i, hi⟩).symm
  · intro r choice ht hn hcandidates hpacks
    obtain ⟨device, hmeets⟩ := meets_of_packs h hready hpacks
    obtain ⟨t, a, hok, -⟩ := placeShards_of_meets h.listed hready ht hn hcandidates hmeets
    exact ⟨t, a, hok⟩

theorem exists_offers_lone : ∃ entry sample, Offers lone "gpu" entry sample ∧
    entry.device.memory - sample.used.toNat = 16 := by
  have hreachable : Reachable lone := run_lone.reachable
  have hready : lone.phase = .ready := by decide +kernel
  obtain ⟨d, hpool, hid, hfree⟩ := pool_lone
  have hd : d ∈ lone.pool := hpool ▸ List.mem_singleton_self d
  obtain ⟨entry, sample, reduced, ho, -, hof⟩ := (mem_pool_iff hreachable hready).mp hd
  rw [hid] at ho
  refine ⟨entry, sample, ho, ?_⟩
  rw [← free_poolDevice hreachable hready ho lone.config.scoring reduced, ← hof, hfree]

theorem packs_lone : Packs lone ⟨[10, 6], [], none, none⟩ fun _ => "gpu" := by
  obtain ⟨entry, sample, ho, hfree⟩ := exists_offers_lone
  constructor
  · intro i
    exact ⟨entry, sample, ho, Or.inl rfl, nofun, nofun⟩
  · intro id entry' sample' ho'
    by_cases hid : "gpu" = id
    · subst hid
      obtain rfl := Except.ok.inj (ho.device.symm.trans ho'.device)
      obtain rfl := Option.some.inj (Except.ok.inj (ho.sample.symm.trans ho'.sample))
      rw [hfree]
      decide
    · simp [hid]

/-- Two shards fill the device of `lone`, which is also ranked and selected. -/
theorem offers_decide_of_lone :
    (∃ scores, lone.rankDevices = .ok scores ∧ "gpu" ∈ scores.map (·.deviceId)) ∧
    (∃ best entry sample, lone.selectBestDevice 16 = .ok (some best) ∧
      Offers lone best.deviceId entry sample) ∧
    ∃ t a, lone.placeShards ⟨[10, 6], [], none, none⟩ = (t, .ok (0, a)) ∧ bytesOn a "gpu" ≤ 16 := by
  obtain ⟨entry, sample, ho, hfree⟩ := exists_offers_lone
  obtain ⟨⟨scores, hranked, -, hids⟩, hselect, hsound, hcomplete⟩ :=
    offers_decide run_lone.reachable (by decide +kernel)
  refine ⟨⟨scores, hranked, (hids "gpu").mpr ⟨entry, sample, ho⟩⟩, ?_, ?_⟩
  · rcases hselect 16 with ⟨best, entry', sample', hbest, ho', -⟩ | ⟨-, hnone⟩
    · exact ⟨best, entry', sample', hbest, ho'⟩
    · exact absurd (hnone "gpu" entry sample ho) (by omega)
  · obtain ⟨t, a, hok⟩ := hcomplete _ _ (by decide) (List.cons_ne_nil 10 [6])
      (List.forall_mem_nil _) packs_lone
    obtain ⟨choice, hpacks, -, -, hbytes⟩ := hsound _ t _ a hok
    refine ⟨t, a, hok, ?_⟩
    rw [hbytes, ← hfree]
    exact hpacks.room "gpu" entry sample ho

/-- No shards are packed by any choice, but a request for none is refused. -/
theorem no_shards_are_refused :
    let r : Request := ⟨[], [], none, none⟩
    Reachable lone ∧ lone.phase = .ready ∧ lone.config.placement.timeoutMs ≠ 0 ∧
      (∀ d ∈ r.candidates, d ∈ lone.registry) ∧ (∃ choice, Packs lone r choice) ∧
      lone.placeShards r = (lone, .error .noShards) := by
  intro r
  have hready : lone.phase = .ready := by decide +kernel
  have hcandidates : ∀ d ∈ r.candidates, d ∈ lone.registry := List.forall_mem_nil _
  refine ⟨run_lone.reachable, hready, by decide, hcandidates, ⟨Fin.elim0, ?_, ?_⟩, ?_⟩
  · exact fun i => i.elim0
  · intro id entry sample ho
    exact Nat.zero_le _
  · rw [run_lone.listed.placeShards_eq hready hcandidates]
    rfl

end GpuCluster.Session
