import Mathlib
import GpuCluster.Proofs.Placement.Solve
import GpuCluster.Proofs.Placement.Words

/-!
# Placement is sound and complete

A choice of devices meets a request when every device is admitted and has room for all its shards. With
time for the search, a request is solved exactly when some choice meets it. Whatever the time, the
assignment that solves a request comes from such a choice.
-/

namespace GpuCluster.Placement

variable {policy : PlacementPolicy} {r : Request} {pool : List PoolDevice}

/-- A choice of a device for every shard meets a request. -/
structure Meets (r : Request) (pool : List PoolDevice) (device : Fin r.sizes.length → PoolDevice) :
    Prop where
  mem : ∀ i, device i ∈ pool
  admits : ∀ i, r.Admits (device i)
  room : ∀ d ∈ pool, (∑ i, if (device i).id = d.id then r.sizes[i] else 0) ≤ d.free

theorem load_map_range {κ : Type} [DecidableEq κ] (sizes : List Nat) (f : Nat → κ) (target : κ) :
    load (sizes.getD · 0) ((List.range sizes.length).map fun i => (i, f i)) target =
      ∑ i : Fin sizes.length, if f i = target then sizes[i] else 0 := by
  rw [load, List.map_map, ← List.map_coe_finRange_eq_range, List.map_map, Fin.sum_univ_def]
  congr 1
  apply List.map_congr_left
  intro i _
  simp

theorem eq_of_id_eq (hids : (pool.map (·.id)).Nodup) {d e : PoolDevice} (hd : d ∈ pool) (he : e ∈ pool)
    (h : d.id = e.id) : d = e :=
  List.inj_on_of_nodup_map hids hd he h

theorem getD_contendingFree {position : Nat} (h : position < (contenders r pool).length) :
    (contendingFree r pool).getD position 0 = (contenders r pool)[position].free := by
  rw [contendingFree, List.getD_eq_getElem _ _ (by simpa using h), List.getElem_map]

theorem position_eq_iff (hids : (pool.map (·.id)).Nodup) {p q : Nat}
    (hp : p < (contenders r pool).length) (hq : q < (contenders r pool).length) :
    (contenders r pool)[p].id = (contenders r pool)[q].id ↔ p = q := by
  have hp' : p < ((contenders r pool).map (·.id)).length := by simpa using hp
  have hq' : q < ((contenders r pool).map (·.id)).length := by simpa using hq
  have h : ((contenders r pool).map (·.id))[p] = ((contenders r pool).map (·.id))[q] ↔ p = q :=
    (nodup_ids_contenders hids).getElem_inj_iff
  rwa [List.getElem_map, List.getElem_map] at h

theorem exists_isPacking_of_meets (hids : (pool.map (·.id)).Nodup)
    {device : Fin r.sizes.length → PoolDevice} (h : Meets r pool device) :
    ∃ placed, IsPacking (r.sizes.getD · 0) (contendingFree r pool) (List.range r.sizes.length)
      placed := by
  have hex : ∀ i : Nat, ∃ position, ∀ hi : i < r.sizes.length,
      ∃ hp : position < (contenders r pool).length, (contenders r pool)[position] = device ⟨i, hi⟩ := by
    intro i
    by_cases hi : i < r.sizes.length
    · obtain ⟨position, hp, heq⟩ :=
        List.getElem_of_mem (mem_contenders.mpr ⟨h.mem ⟨i, hi⟩, h.admits ⟨i, hi⟩⟩)
      exact ⟨position, fun _ => ⟨hp, heq⟩⟩
    · exact ⟨0, fun hi' => absurd hi' hi⟩
  choose position hposition using hex
  refine ⟨(List.range r.sizes.length).map fun i => (i, position i), ?_, ?_, ?_⟩
  · rw [List.map_map]
    exact .of_eq (List.map_id _)
  · intro e he
    obtain ⟨i, hi, rfl⟩ := List.mem_map.mp he
    rw [contendingFree, List.length_map]
    exact (hposition i (List.mem_range.mp hi)).1
  · intro q
    rw [load_map_range]
    by_cases hq : q < (contenders r pool).length
    · have hmem := (mem_contenders.mp (List.getElem_mem hq)).1
      rw [getD_contendingFree hq]
      refine le_of_eq_of_le (Finset.sum_congr rfl fun i _ => ?_) (h.room _ hmem)
      obtain ⟨hp, heq⟩ := hposition i i.isLt
      have hiff := position_eq_iff hids hp hq
      rw [heq] at hiff
      simp only [hiff]
    · refine le_of_eq_of_le (Finset.sum_eq_zero fun i _ => if_neg ?_) (Nat.zero_le _)
      rintro rfl
      exact hq (hposition i i.isLt).1

theorem exists_meets_of_isPacking (hids : (pool.map (·.id)).Nodup) {placed : List (Nat × Nat)}
    (h : IsPacking (r.sizes.getD · 0) (contendingFree r pool) (List.range r.sizes.length) placed) :
    ∃ device, Meets r pool device ∧ ∀ i : Fin r.sizes.length,
      (named (contenders r pool) placed).get? i = some (device i).id := by
  obtain ⟨position, hperm⟩ := h.exists_positions List.nodup_range
  have hmem : ∀ i : Fin r.sizes.length, (i.val, position i) ∈ placed := fun i =>
    hperm.mem_iff.mpr (List.mem_map.mpr ⟨i, List.mem_range.mpr i.isLt, rfl⟩)
  have hp : ∀ i : Fin r.sizes.length, position i < (contenders r pool).length := fun i => by
    simpa [contendingFree] using h.inRange _ (hmem i)
  have hdevice : ∀ i : Fin r.sizes.length,
      (contenders r pool).get ⟨position i, hp i⟩ ∈ contenders r pool := fun i => List.getElem_mem _
  refine ⟨fun i => (contenders r pool).get ⟨position i, hp i⟩, ⟨?_, ?_, ?_⟩, ?_⟩
  · exact fun i => (mem_contenders.mp (hdevice i)).1
  · exact fun i => (mem_contenders.mp (hdevice i)).2
  · intro d hd
    by_cases hc : d ∈ contenders r pool
    · obtain ⟨q, hq, rfl⟩ := List.getElem_of_mem hc
      have hle := h.load_le q
      rw [load_perm hperm, load_map_range, getD_contendingFree hq] at hle
      refine le_of_eq_of_le (Finset.sum_congr rfl fun i _ => ?_) hle
      simp only [List.get_eq_getElem, position_eq_iff hids (hp i) hq]
    · -- A device that is not tried shares its id with none that is.
      refine le_of_eq_of_le (Finset.sum_eq_zero fun i _ => if_neg fun heq => ?_) (Nat.zero_le _)
      exact hc (eq_of_id_eq hids (mem_contenders.mp (hdevice i)).1 hd heq ▸ hdevice i)
  · intro i
    rw [named]
    apply Table.get?_ofList_of_mem
    · rw [List.map_map]
      exact h.perm.nodup_iff.mpr List.nodup_range
    · refine List.mem_map.mpr ⟨_, hmem i, ?_⟩
      simp [hp i]

/--
With time for the search, a request with shards is solved exactly when some choice of devices meets it,
and is infeasible otherwise. The byte counts have no bound here, so that their totals may exceed the
largest one that is reported.
-/
theorem solve_isOk_iff_exists_meets (hn : r.sizes ≠ []) (hids : (pool.map (·.id)).Nodup)
    (ht : policy.timeoutMs ≠ 0) :
    ((∃ a, solve policy r pool = .ok a) ↔ ∃ device, Meets r pool device) ∧
    ((¬∃ device, Meets r pool device) →
      ∃ failure, solve policy r pool = .error (.infeasible failure)) := by
  have hiff : (∃ a, solve policy r pool = .ok a) ↔ ∃ device, Meets r pool device := by
    constructor
    · rintro ⟨a, ha⟩
      obtain ⟨placed, _, _, hpacking, -⟩ := of_solve_eq_ok ha
      obtain ⟨device, hdevice, -⟩ := exists_meets_of_isPacking hids hpacking
      exact ⟨device, hdevice⟩
    · rintro ⟨device, hdevice⟩
      obtain ⟨placed, hpacking⟩ := exists_isPacking_of_meets hids hdevice
      exact exists_solve_of_isPacking hn ht hpacking
  refine ⟨hiff, fun hnone => ?_⟩
  rcases solve_cases policy pool hn with herror | ⟨placed, method, het, -, hok⟩
  · exact herror
  · exact absurd (hiff.mp ⟨_, hok⟩) hnone

/-- The search finds a packing of shards that fill both devices, each beyond half of the largest byte
count. -/
theorem solve_isOk_iff_exists_meets_two_full :
    let full (id : DeviceId) : PoolDevice := ⟨id, maxBytes, maxBytes, 0, [], none, .double 0⟩
    let r : Request := ⟨[maxBytes - 1, maxBytes, 1], [], none, none⟩
    (∃ a, solve {} r [full "a", full "b"] = .ok a) ∧
      ∀ failure, solve {} r [full "a", full "b"] ≠ .error (.infeasible failure) := by
  intro full r
  have hn : r.sizes ≠ [] := by simp [r]
  have hids : ([full "a", full "b"].map (·.id)).Nodup := by simp [full]
  have ht : ({} : PlacementPolicy).timeoutMs ≠ 0 := by decide
  have hmeets : Meets r [full "a", full "b"] ![full "a", full "b", full "a"] := by
    refine ⟨fun i => by fin_cases i <;> simp, fun i => ⟨Or.inl rfl, ?_, ?_⟩, ?_⟩
    · simp [r]
    · simp [r]
    · simp [Fin.sum_univ_three, full, r, maxBytes]
  obtain ⟨a, ha⟩ := (solve_isOk_iff_exists_meets hn hids ht).1.mpr ⟨_, hmeets⟩
  refine ⟨⟨a, ha⟩, fun failure hfailure => ?_⟩
  rw [ha] at hfailure
  cases hfailure

/-! ## What an assignment holds -/

theorem entries_eq_of_keys_eq_range {placements : Table Nat DeviceId} {n : Nat} {f : Nat → DeviceId}
    (hkeys : placements.keys = List.range n) (h : ∀ i < n, placements.get? i = some (f i)) :
    placements.entries = (List.range n).map fun i => (i, f i) := by
  rw [← hkeys, Table.keys, List.map_map]
  refine (List.map_id _).symm.trans (List.map_congr_left ?_)
  rintro ⟨i, id⟩ he
  have hi : i < n := by
    rw [← List.mem_range, ← hkeys]
    exact List.mem_map_of_mem he
  have heq := (Table.get?_eq_some_iff.mpr he).symm.trans (h i hi)
  rw [Option.some.inj heq]
  rfl

theorem keys_named {devices : List PoolDevice} {placed : List (Nat × Nat)} {n : Nat}
    (h : (placed.map Prod.fst).Perm (List.range n)) : (named devices placed).keys = List.range n := by
  apply Table.keys_eq_range
  intro k
  rw [named, Table.mem_ofList, List.map_map]
  · exact h.mem_iff.trans List.mem_range
  · rw [List.map_map]
    exact h.nodup_iff.mpr List.nodup_range

/-- An assignment puts every shard where a choice of devices has it, and counts its bytes there. -/
structure Follows (r : Request) (device : Fin r.sizes.length → PoolDevice) (a : Assignment) : Prop where
  keys : a.placements.keys = List.range r.sizes.length
  placements : ∀ i : Fin r.sizes.length, a.placements.get? i = some (device i).id
  bytes : ∀ id, a.bytes.get? id =
    if ∃ i, (device i).id = id then some (∑ i, if (device i).id = id then r.sizes[i] else 0)
    else none

theorem Follows.of_entries {device : Fin r.sizes.length → PoolDevice} {placements : Table Nat DeviceId}
    (hkeys : placements.keys = List.range r.sizes.length)
    (hget : ∀ i : Fin r.sizes.length, placements.get? i = some (device i).id) (method : Method)
    (heterogeneous : Bool) : Follows r device (.of placements r.sizes method heterogeneous) := by
  refine ⟨hkeys, hget, fun id => ?_⟩
  let name (i : Nat) : DeviceId := if hi : i < r.sizes.length then (device ⟨i, hi⟩).id else ""
  have hname (i : Fin r.sizes.length) : name i = (device i).id := dif_pos i.isLt
  have hentries : placements.entries = _ := entries_eq_of_keys_eq_range hkeys fun i hi =>
    (hget ⟨i, hi⟩).trans (congrArg some (hname ⟨i, hi⟩).symm)
  have hvalues : id ∈ placements.values ↔ ∃ i, (device i).id = id := by
    rw [Table.values, hentries, List.map_map, List.mem_map]
    constructor
    · rintro ⟨i, hi, rfl⟩
      exact ⟨⟨i, List.mem_range.mp hi⟩, (hname ⟨i, _⟩).symm⟩
    · rintro ⟨i, rfl⟩
      exact ⟨i, List.mem_range.mpr i.isLt, hname i⟩
  rw [Assignment.get?_bytes_of, hentries, load_map_range]
  simp only [hvalues, hname]

namespace Follows

variable {device : Fin r.sizes.length → PoolDevice} {a : Assignment} {id : DeviceId}

theorem exists_shard (h : Follows r device a) {shard : Nat} (hs : a.placements.get? shard = some id) :
    ∃ i : Fin r.sizes.length, i = shard ∧ (device i).id = id := by
  have hlt : shard < r.sizes.length := by
    rw [← List.mem_range, ← h.keys, Table.mem_keys_iff]
    exact Table.mem_of_get? hs
  exact ⟨⟨shard, hlt⟩, rfl, Option.some.inj ((h.placements ⟨shard, hlt⟩).symm.trans hs)⟩

theorem mem_bytes_iff (h : Follows r device a) :
    id ∈ a.bytes ↔ ∃ shard, a.placements.get? shard = some id := by
  rw [Table.mem_iff_get?, h.bytes]
  constructor
  · rintro ⟨bytes, hb⟩
    split at hb
    · rename_i hused
      obtain ⟨i, rfl⟩ := hused
      exact ⟨i, h.placements i⟩
    · cases hb
  · rintro ⟨shard, hs⟩
    obtain ⟨i, -, hi⟩ := h.exists_shard hs
    exact ⟨_, if_pos ⟨i, hi⟩⟩

theorem bytes_eq_sum (h : Follows r device a) {bytes : Nat} (hb : a.bytes.get? id = some bytes) :
    bytes = ∑ i : Fin r.sizes.length,
      if a.placements.get? i = some id then r.sizes[i] else 0 := by
  rw [h.bytes] at hb
  split at hb
  · rw [← Option.some.inj hb]
    simp only [h.placements, Option.some.injEq]
  · cases hb

theorem bytes_le_free (h : Follows r device a) (hmeets : Meets r pool device) {bytes : Nat}
    (hb : a.bytes.get? id = some bytes) : ∃ d ∈ pool, d.id = id ∧ bytes ≤ d.free := by
  rw [h.bytes] at hb
  split at hb
  · rename_i hused
    obtain ⟨i, rfl⟩ := hused
    obtain rfl := Option.some.inj hb
    exact ⟨device i, hmeets.mem i, rfl, hmeets.room _ (hmeets.mem i)⟩
  · cases hb

end Follows

/-- An assignment that solves a request follows a choice of devices that meets it. -/
theorem exists_follows_of_solve (hids : (pool.map (·.id)).Nodup) {a : Assignment}
    (h : solve policy r pool = .ok a) :
    a = .of a.placements r.sizes a.method a.heterogeneous ∧
    ∃ device, Meets r pool device ∧ Follows r device a := by
  obtain ⟨placed, method, heterogeneous, hpacking, rfl⟩ := of_solve_eq_ok h
  obtain ⟨device, hdevice, hget⟩ := exists_meets_of_isPacking hids hpacking
  exact ⟨rfl, device, hdevice, .of_entries (keys_named hpacking.perm) hget method heterogeneous⟩

theorem misfit?_eq_none {a : Assignment} (hids : (pool.map (·.id)).Nodup)
    (h : ∀ id bytes, a.bytes.get? id = some bytes → ∃ d ∈ pool, d.id = id ∧ bytes ≤ d.free) :
    a.misfit? pool = none := by
  rw [Assignment.misfit?, List.findSome?_eq_none_iff]
  rintro ⟨id, bytes⟩ he
  obtain ⟨d, hd, rfl, hle⟩ := h id bytes (Table.get?_eq_some_iff.mpr he)
  obtain ⟨e, hfound⟩ : ∃ e, pool.find? (·.id = d.id) = some e :=
    Option.isSome_iff_exists.mp (List.find?_isSome.mpr ⟨d, hd, by simp⟩)
  have heq : e = d := eq_of_id_eq hids (List.mem_of_find?_eq_some hfound) hd
    (by simpa using List.find?_some hfound)
  rw [Assignment.misfitOn?, hfound, heq]
  exact if_neg (Nat.not_lt.mpr hle)

/--
An assignment that solves a request, with or without time for the search, has exactly the shards of the
request, puts them on devices of the pool that the request admits, and has for each device the sum of
its shards, which the device has free. First fit, the search and the accounting leave the range of words
at no step.
-/
theorem solve_sound (hids : (pool.map (·.id)).Nodup) (hwords : ∀ d ∈ pool, d.free ≤ maxBytes)
    {a : Assignment} (h : solve policy r pool = .ok a) :
    a.placements.keys = List.range r.sizes.length ∧
    (∀ shard id, a.placements.get? shard = some id → ∃ d ∈ pool, d.id = id ∧ r.Admits d) ∧
    (∀ id, id ∈ a.bytes ↔ ∃ shard, a.placements.get? shard = some id) ∧
    (∀ id bytes, a.bytes.get? id = some bytes →
      bytes = (∑ i : Fin r.sizes.length,
        if a.placements.get? i = some id then r.sizes[i] else 0) ∧
      ∃ d ∈ pool, d.id = id ∧ bytes ≤ d.free) ∧
    a.misfit? pool = none ∧
    firstFitInWords? r.sizes (contendingFree r pool) =
      some (firstFit r.sizes (contendingFree r pool)) ∧
    (∃ board, searchInWords? r.sizes (contendingFree r pool) =
      some ((search? r.sizes (contendingFree r pool)).isSome, board)) ∧
    bytesInWords? r.sizes a.placements.entries .empty = some a.bytes := by
  obtain ⟨hof, device, hmeets, hfollows⟩ := exists_follows_of_solve hids h
  have hfit : ∀ id bytes, a.bytes.get? id = some bytes → ∃ d ∈ pool, d.id = id ∧ bytes ≤ d.free :=
    fun id bytes hb => hfollows.bytes_le_free hmeets hb
  refine ⟨hfollows.keys, ?_, fun id => hfollows.mem_bytes_iff, ?_, misfit?_eq_none hids hfit,
    firstFitInWords?_eq .., ?_, ?_⟩
  · intro shard id hs
    obtain ⟨i, -, rfl⟩ := hfollows.exists_shard hs
    exact ⟨device i, hmeets.mem i, rfl, hmeets.admits i⟩
  · exact fun id bytes hb => ⟨hfollows.bytes_eq_sum hb, hfit id bytes hb⟩
  · have hfree : ∀ n ∈ contendingFree r pool, n ≤ maxBytes := by
      intro n hn
      obtain ⟨d, hd, rfl⟩ := List.mem_map.mp hn
      exact hwords d (mem_contenders.mp hd).1
    rw [searchInWords?_eq hfree]
    cases search? r.sizes (contendingFree r pool) <;> exact ⟨_, rfl⟩
  · rw [hof]
    apply bytesInWords?_of
    intro id bytes hb
    obtain ⟨d, hd, -, hle⟩ := hfit id bytes (by rw [hof]; exact hb)
    exact hle.trans (hwords d hd)

/-- Three shards on two devices, of which first fit would strand one. -/
theorem solve_sound_of_stranding :
    let device (id : DeviceId) (bytes : Nat) : PoolDevice :=
      ⟨id, bytes, bytes, 0, [], none, .double 0⟩
    let r : Request := ⟨[3, 4, 5], [], none, none⟩
    let pool := [device "a" 8, device "b" 4]
    (pool.map (·.id)).Nodup ∧ (∀ d ∈ pool, d.free ≤ maxBytes) ∧
    ∃ a, solve {} r pool = .ok a ∧ a.placements.keys = [0, 1, 2] ∧ a.misfit? pool = none := by
  intro device r pool
  have hids : (pool.map (·.id)).Nodup := by simp [pool, device]
  have hwords : ∀ d ∈ pool, d.free ≤ maxBytes := by simp [pool, device, maxBytes]
  have hmeets : Meets r pool ![device "a" 8, device "b" 4, device "a" 8] := by
    refine ⟨fun i => by fin_cases i <;> simp [pool], fun i => ⟨Or.inl rfl, ?_, ?_⟩, ?_⟩
    · simp [r]
    · simp [r]
    · simp [Fin.sum_univ_three, pool, device, r]
  obtain ⟨placed, hplaced⟩ := exists_isPacking_of_meets hids hmeets
  have ht : ({} : PlacementPolicy).timeoutMs ≠ 0 := by decide
  obtain ⟨a, ha⟩ := exists_solve_of_isPacking (by simp [r]) ht hplaced
  obtain ⟨hkeys, -, -, -, hfit, -⟩ := solve_sound hids hwords ha
  exact ⟨hids, hwords, a, ha, hkeys, hfit⟩

end GpuCluster.Placement
