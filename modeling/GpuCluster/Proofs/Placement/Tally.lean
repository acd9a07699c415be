import Mathlib
import GpuCluster.Proofs.Placement.Correctness

/-!
# What an assignment counts

The bytes of an assignment are kept while going through its shards once. What is kept for a device is the
sum over its shards, also when some of them have no bytes or no size at all. So a device is referred to
exactly when it holds a shard, and an assignment fits a pool exactly when the pool has every such device
with room for its sum.
-/

namespace GpuCluster.Placement

/-- Adding over the entries of a target is adding over its shards. -/
theorem load_eq_sum_filter {κ : Type} [DecidableEq κ] (size : Nat → Nat) (placed : List (Nat × κ))
    (target : κ) :
    load size placed target = (((placed.filter (·.2 = target)).map Prod.fst).map size).sum := by
  induction placed with
  | nil => rfl
  | cons e placed ih =>
    obtain ⟨shard, device⟩ := e
    rw [load_cons, ih]
    by_cases h : device = target
    · rw [if_pos h, List.filter_cons_of_pos (by simpa using h), List.map_cons, List.map_cons,
        List.sum_cons]
    · rw [if_neg h, List.filter_cons_of_neg (by simpa using h), Nat.zero_add]

namespace Assignment

variable {a : Assignment} {sizes : List Nat} {device : DeviceId} {pool : List PoolDevice}

/-- The shards that a device holds, in their order. -/
def shardsOn (a : Assignment) (device : DeviceId) : List Nat :=
  a.placements.keys.filter fun shard => a.deviceFor? shard = some device

/-- The sizes of the shards that a device holds, added up without a bound. A shard beyond the list of
sizes counts as nothing. -/
def bytesOn (sizes : List Nat) (a : Assignment) (device : DeviceId) : Nat :=
  ((a.shardsOn device).map (sizes.getD · 0)).sum

theorem shardsOn_eq_map_filter (a : Assignment) (device : DeviceId) :
    a.shardsOn device = (a.placements.entries.filter (·.2 = device)).map Prod.fst := by
  rw [shardsOn, Table.keys, List.filter_map]
  congr 1
  refine List.filter_congr fun e he => ?_
  have hget : a.deviceFor? e.1 = some e.2 := Table.get?_eq_some_iff.mpr he
  simp only [Function.comp_apply, hget, Option.some.injEq]

theorem load_entries_eq_bytesOn (sizes : List Nat) (a : Assignment) (device : DeviceId) :
    load (sizes.getD · 0) a.placements.entries device = a.bytesOn sizes device := by
  rw [load_eq_sum_filter, bytesOn, shardsOn_eq_map_filter]

theorem bytesOn_le_sum (sizes : List Nat) (a : Assignment) (device : DeviceId) :
    a.bytesOn sizes device ≤ (a.placements.keys.map (sizes.getD · 0)).sum :=
  (List.filter_sublist.map _).sum_le_sum fun _ _ => Nat.zero_le _

section Of

variable (placements : Table Nat DeviceId) (sizes : List Nat) (method : Method) (heterogeneous : Bool)

theorem get?_bytes_eq_some_iff {bytes : Nat} :
    (of placements sizes method heterogeneous).bytes.get? device = some bytes ↔
      (∃ shard, (of placements sizes method heterogeneous).deviceFor? shard = some device) ∧
        (of placements sizes method heterogeneous).bytesOn sizes device = bytes := by
  rw [get?_bytes_of, Option.ite_none_right_eq_some, Option.some.injEq, ← load_entries_eq_bytesOn]
  exact and_congr_left' Table.mem_values_iff

end Of

theorem exists_of_misfitOn?_eq_none {bytes : Nat} (h : misfitOn? pool device bytes = none) :
    ∃ d ∈ pool, d.id = device ∧ bytes ≤ d.free := by
  rw [misfitOn?] at h
  split at h
  · cases h
  · rename_i d hfound
    have hid : d.id = device := by simpa using List.find?_some hfound
    refine ⟨d, List.mem_of_find?_eq_some hfound, hid, Nat.le_of_not_lt fun hlt => ?_⟩
    rw [if_pos hlt] at h
    cases h

theorem misfit?_eq_none_iff (hids : (pool.map (·.id)).Nodup) :
    a.misfit? pool = none ↔
      ∀ device bytes, a.bytes.get? device = some bytes →
        ∃ d ∈ pool, d.id = device ∧ bytes ≤ d.free := by
  constructor
  · intro h device bytes hbytes
    apply exists_of_misfitOn?_eq_none
    exact List.findSome?_eq_none_iff.mp h _ (Table.get?_eq_some_iff.mp hbytes)
  · exact misfit?_eq_none hids

/--
When the sums fit in words, going through the placements adds up without leaving the range of words. The
assignment then has bytes for exactly the devices that hold a shard, the sum over their shards; it refers
to exactly these; and it fits a pool of distinct devices exactly when each of them is in the pool and has
its sum free.
-/
theorem bytes_accounted (placements : Table Nat DeviceId) (sizes : List Nat) (method : Method)
    (heterogeneous : Bool)
    (hwords : ∀ device, (of placements sizes method heterogeneous).bytesOn sizes device ≤ maxBytes) :
    let a := of placements sizes method heterogeneous
    bytesInWords? sizes placements.entries .empty = some a.bytes ∧
    (∀ device bytes, a.bytes.get? device = some bytes ↔
      (∃ shard, a.deviceFor? shard = some device) ∧ bytes = a.bytesOn sizes device) ∧
    (∀ device, a.references device = true ↔ ∃ shard, a.deviceFor? shard = some device) ∧
    ∀ pool : List PoolDevice, (pool.map (·.id)).Nodup →
      (a.misfit? pool = none ↔ ∀ device, (∃ shard, a.deviceFor? shard = some device) →
        ∃ d ∈ pool, d.id = device ∧ a.bytesOn sizes device ≤ d.free) := by
  intro a
  have hget : ∀ device bytes, a.bytes.get? device = some bytes ↔
      (∃ shard, a.deviceFor? shard = some device) ∧ bytes = a.bytesOn sizes device := by
    intro device bytes
    rw [get?_bytes_eq_some_iff, eq_comm (a := bytes)]
  refine ⟨?_, hget, fun device => ?_, fun pool hids => ?_⟩
  · apply bytesInWords?_of
    intro device bytes hbytes
    rw [((hget device bytes).mp hbytes).2]
    exact hwords device
  · rw [references, Table.contains, Option.isSome_iff_exists]
    simp only [hget, exists_and_left, exists_eq, and_true]
  · rw [misfit?_eq_none_iff hids]
    constructor
    · exact fun h device hheld => h device _ ((hget _ _).mpr ⟨hheld, rfl⟩)
    · intro h device bytes hbytes
      obtain ⟨hheld, rfl⟩ := (hget _ _).mp hbytes
      exact h device hheld

/-- A shard without bytes and one beyond the list of sizes are placed all the same. -/
theorem bytes_accounted_of_empty_shards :
    let placements : Table Nat DeviceId := .ofList [(0, "a"), (1, "b"), (2, "a"), (7, "c")]
    let a := of placements [5, 0, 4] .search true
    (∀ device, a.bytesOn [5, 0, 4] device ≤ maxBytes) ∧
      a.bytes.get? "a" = some 9 ∧ a.bytes.get? "b" = some 0 ∧ a.bytes.get? "c" = some 0 ∧
      a.references "d" = false := by
  intro placements a
  have hwords : ∀ device, a.bytesOn [5, 0, 4] device ≤ maxBytes := fun device =>
    (bytesOn_le_sum _ a device).trans (by decide)
  obtain ⟨-, hget, hreferences, -⟩ := bytes_accounted placements [5, 0, 4] .search true hwords
  refine ⟨hwords, ?_, ?_, ?_, ?_⟩
  · exact (hget "a" 9).mpr ⟨⟨0, by decide⟩, by decide⟩
  · exact (hget "b" 0).mpr ⟨⟨1, by decide⟩, by decide⟩
  · exact (hget "c" 0).mpr ⟨⟨7, by decide⟩, by decide⟩
  · decide

end Assignment

end GpuCluster.Placement
