import Mathlib
import GpuCluster.Placement.Solve

/-!
# Packings

A packing gives every shard a position so that no position receives more bytes than it has free.
Taking one shard out of a packing, and taking its bytes from its position, leaves a packing of the
other shards; putting one back is the converse. All that is said about the two ways of placing
shards rests on these two steps.
-/

namespace GpuCluster.Placement

variable {size : Nat → Nat} {free : List Nat} {shards : List Nat} {placed : List (Nat × Nat)}

section Load

variable {κ : Type} [DecidableEq κ] {target other : κ}

/-- The bytes that placed shards put on a target, a position or a device. -/
def load (size : Nat → Nat) (placed : List (Nat × κ)) (target : κ) : Nat :=
  (placed.map fun e => if e.2 = target then size e.1 else 0).sum

@[simp]
theorem load_nil : load size [] target = 0 := rfl

theorem load_cons (shard : Nat) (placed : List (Nat × κ)) :
    load size ((shard, target) :: placed) other =
      (if target = other then size shard else 0) + load size placed other :=
  List.sum_cons

theorem load_eq_zero {placed : List (Nat × κ)} (h : target ∉ placed.map Prod.snd) :
    load size placed target = 0 := by
  apply List.sum_eq_zero
  intro n hn
  obtain ⟨e, he, rfl⟩ := List.mem_map.mp hn
  exact if_neg fun heq => h (List.mem_map.mpr ⟨e, he, heq⟩)

theorem load_perm {placed placed' : List (Nat × κ)} (h : placed.Perm placed') (target : κ) :
    load size placed target = load size placed' target :=
  (h.map _).sum_eq

end Load

/-- Every shard of a list has a position, and every position has room for its shards. -/
structure IsPacking (size : Nat → Nat) (free : List Nat) (shards : List Nat)
    (placed : List (Nat × Nat)) : Prop where
  perm : (placed.map Prod.fst).Perm shards
  inRange : ∀ e ∈ placed, e.2 < free.length
  load_le : ∀ position, load size placed position ≤ free.getD position 0

theorem length_takeFrom (free : List Nat) (position n : Nat) :
    (takeFrom free position n).length = free.length :=
  List.length_modify ..

theorem getD_takeFrom (free : List Nat) (position n other : Nat) :
    (takeFrom free position n).getD other 0 =
      if position = other then free.getD other 0 - n else free.getD other 0 := by
  rw [takeFrom, List.getD_eq_getElem?_getD, List.getD_eq_getElem?_getD, List.getElem?_modify]
  by_cases h : position = other
  · cases hf : free[other]? <;> simp [h]
  · simp [h]

namespace IsPacking

theorem nil : IsPacking size free [] [] :=
  ⟨List.Perm.refl _, by simp, by simp⟩

theorem of_perm {shards' : List Nat} (h : IsPacking size free shards placed)
    (hp : shards.Perm shards') : IsPacking size free shards' placed :=
  ⟨h.perm.trans hp, h.inRange, h.load_le⟩

/-- A shard goes where there is room for it beside a packing of the others. -/
theorem cons {shard position : Nat} (hpos : position < free.length)
    (hroom : size shard ≤ free.getD position 0)
    (h : IsPacking size (takeFrom free position (size shard)) shards placed) :
    IsPacking size free (shard :: shards) ((shard, position) :: placed) where
  perm := h.perm.cons shard
  inRange := by
    intro e he
    rcases List.mem_cons.mp he with rfl | he
    · exact hpos
    · exact (h.inRange e he).trans_eq (length_takeFrom ..)
  load_le := by
    intro other
    have hle := h.load_le other
    rw [getD_takeFrom] at hle
    rw [load_cons]
    by_cases heq : position = other
    · subst heq
      rw [if_pos rfl] at hle ⊢
      omega
    · rw [if_neg heq] at hle ⊢
      omega

/-- A shard of a packing has room at its position, and the others have room beside it. -/
theorem exists_of_cons {shard : Nat} (h : IsPacking size free (shard :: shards) placed) :
    ∃ position rest, position < free.length ∧ size shard ≤ free.getD position 0 ∧
      IsPacking size (takeFrom free position (size shard)) shards rest := by
  obtain ⟨⟨shard', position⟩, he, hshard⟩ :=
    List.mem_map.mp (h.perm.mem_iff.mpr List.mem_cons_self)
  obtain rfl : shard' = shard := hshard
  have hsplit := List.perm_cons_erase he
  have hload : ∀ other, (if position = other then size shard' else 0) +
      load size (placed.erase (shard', position)) other ≤ free.getD other 0 := by
    intro other
    rw [← load_cons, ← load_perm hsplit]
    exact h.load_le other
  refine ⟨position, placed.erase (shard', position), h.inRange _ he, ?_, ?_, ?_, ?_⟩
  · have := hload position
    rw [if_pos rfl] at this
    omega
  · exact ((hsplit.map Prod.fst).symm.trans h.perm).cons_inv
  · intro e hmem
    rw [length_takeFrom]
    exact h.inRange e (List.mem_of_mem_erase hmem)
  · intro other
    have := hload other
    rw [getD_takeFrom]
    by_cases heq : position = other
    · rw [if_pos heq] at this ⊢
      omega
    · rw [if_neg heq] at this ⊢
      omega

/-- A packing of distinct shards is given by a function from shards to positions. -/
theorem exists_positions (hn : shards.Nodup) (h : IsPacking size free shards placed) :
    ∃ position : Nat → Nat, placed.Perm (shards.map fun shard => (shard, position shard)) := by
  have hkeys : (placed.map Prod.fst).Nodup := h.perm.nodup_iff.mpr hn
  have hex : ∀ shard, ∃ position, shard ∈ shards → (shard, position) ∈ placed := by
    intro shard
    by_cases hs : shard ∈ shards
    · obtain ⟨⟨shard', position⟩, he, rfl⟩ := List.mem_map.mp (h.perm.mem_iff.mpr hs)
      exact ⟨position, fun _ => he⟩
    · exact ⟨0, fun hs' => absurd hs' hs⟩
  choose position hposition using hex
  refine ⟨position, ?_⟩
  rw [List.perm_ext_iff_of_nodup hkeys.of_map]
  · rintro ⟨shard, p⟩
    rw [List.mem_map]
    constructor
    · intro he
      have hs : shard ∈ shards := h.perm.mem_iff.mp (List.mem_map.mpr ⟨_, he, rfl⟩)
      exact ⟨shard, hs, List.inj_on_of_nodup_map hkeys (hposition shard hs) he rfl⟩
    · rintro ⟨shard', hs, heq⟩
      rw [← heq]
      exact hposition shard' hs
  · exact hn.map_on fun a _ b _ hab => (Prod.mk.inj hab).1

end IsPacking

end GpuCluster.Placement
