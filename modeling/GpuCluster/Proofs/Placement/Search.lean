import Mathlib
import GpuCluster.Proofs.Placement.Packing

/-!
# The search is complete

The search finds a packing of the pending shards whenever there is one, and what it finds is one. The
choice of the next shard does not matter for this: a packing places every pending shard somewhere, so
whichever is chosen, one of the positions that are tried leads on to a packing of the others.
-/

namespace GpuCluster.Placement

variable {size : Nat → Nat} {free : List Nat} {pending : List Shard}

/-- The shards of a list have the given sizes. -/
def Sized (size : Nat → Nat) (pending : List Shard) : Prop :=
  ∀ s ∈ pending, s.size = size s.index

theorem Sized.erase (h : Sized size pending) (s : Shard) : Sized size (pending.erase s) :=
  fun t ht => h t (List.mem_of_mem_erase ht)

theorem mem_foldl_choose {α : Type} (choose : α → α → Bool) (l : List α) (best : α) :
    l.foldl (fun best t => if choose t best then t else best) best ∈ best :: l := by
  induction l generalizing best with
  | nil => simp
  | cons t l ih =>
    rw [List.foldl_cons]
    rcases List.mem_cons.mp (ih (if choose t best then t else best)) with h | h
    · rw [h]
      split <;> simp
    · exact List.mem_cons_of_mem _ (List.mem_cons_of_mem _ h)

theorem mem_of_tightest? {s : Shard} (h : tightest? free pending = some s) : s ∈ pending := by
  cases pending with
  | nil => cases h
  | cons t rest =>
    obtain rfl := Option.some.inj h
    exact mem_foldl_choose (isTighter free) rest t

theorem tightest?_eq_none (h : tightest? free pending = none) : pending = [] := by
  cases pending with
  | nil => rfl
  | cons t rest => cases h

theorem mem_positionsWithRoom {n position : Nat} :
    position ∈ positionsWithRoom free n ↔ position < free.length ∧ n ≤ free.getD position 0 := by
  simp [positionsWithRoom]

theorem perm_index_erase {s : Shard} (h : s ∈ pending) :
    (pending.map (·.index)).Perm (s.index :: (pending.erase s).map (·.index)) :=
  (List.perm_cons_erase h).map _

theorem length_erase_le {s : Shard} {count : Nat} (h : s ∈ pending)
    (hc : pending.length ≤ count + 1) : (pending.erase s).length ≤ count := by
  rw [List.length_erase_of_mem h]
  omega

theorem isPacking_of_descend {count : Nat} {placed : List (Nat × Nat)}
    (hs : Sized size pending) (hc : pending.length ≤ count)
    (h : descend count free pending = some placed) :
    IsPacking size free (pending.map (·.index)) placed := by
  induction count generalizing free pending placed with
  | zero =>
    obtain rfl : pending = [] := List.eq_nil_of_length_eq_zero (Nat.le_zero.mp hc)
    obtain rfl := Option.some.inj h
    exact .nil
  | succ count ih =>
    rw [descend] at h
    split at h
    · rename_i hnone
      obtain rfl := tightest?_eq_none hnone
      obtain rfl := Option.some.inj h
      exact .nil
    · rename_i s hchosen
      have hmem := mem_of_tightest? hchosen
      obtain ⟨position, hposition, hrest⟩ := List.exists_of_findSome?_eq_some h
      obtain ⟨rest, hdescend, rfl⟩ := Option.map_eq_some_iff.mp hrest
      obtain ⟨hlt, hroom⟩ := mem_positionsWithRoom.mp hposition
      have hpacking := ih (hs.erase s) (length_erase_le hmem hc) hdescend
      rw [hs s hmem] at hpacking hroom
      exact (hpacking.cons hlt hroom).of_perm (perm_index_erase hmem).symm

theorem exists_descend_of_isPacking {count : Nat} {placed : List (Nat × Nat)}
    (hs : Sized size pending) (hc : pending.length ≤ count)
    (h : IsPacking size free (pending.map (·.index)) placed) :
    ∃ found, descend count free pending = some found := by
  induction count generalizing free pending placed with
  | zero => exact ⟨[], rfl⟩
  | succ count ih =>
    rw [descend]
    split
    · exact ⟨[], rfl⟩
    · rename_i s hchosen
      have hmem := mem_of_tightest? hchosen
      -- The packing names a position for the chosen shard, and goes on from there.
      obtain ⟨position, rest, hlt, hroom, hrest⟩ :=
        (h.of_perm (perm_index_erase hmem)).exists_of_cons
      rw [← hs s hmem] at hroom hrest
      obtain ⟨found, hfound⟩ := ih (hs.erase s) (length_erase_le hmem hc) hrest
      refine Option.isSome_iff_exists.mp (List.findSome?_isSome_iff.mpr ?_)
      exact ⟨position, mem_positionsWithRoom.mpr ⟨hlt, hroom⟩, by rw [hfound]; rfl⟩

theorem sized_shardsOf (sizes : List Nat) : Sized (sizes.getD · 0) (shardsOf sizes) := by
  intro s hs
  obtain ⟨i, hi, rfl⟩ := List.mem_mapIdx.mp hs
  simp [hi]

theorem index_shardsOf (sizes : List Nat) :
    (shardsOf sizes).map (·.index) = List.range sizes.length :=
  List.ext_getElem (by simp [shardsOf]) (by simp [shardsOf])

theorem length_shardsOf (sizes : List Nat) : (shardsOf sizes).length = sizes.length :=
  List.length_mapIdx

theorem isPacking_of_search? {sizes : List Nat} {placed : List (Nat × Nat)}
    (h : search? sizes free = some placed) :
    IsPacking (sizes.getD · 0) free (List.range sizes.length) placed := by
  rw [← index_shardsOf]
  exact isPacking_of_descend (sized_shardsOf sizes) (length_shardsOf sizes).le h

theorem exists_search?_of_isPacking {sizes : List Nat} {placed : List (Nat × Nat)}
    (h : IsPacking (sizes.getD · 0) free (List.range sizes.length) placed) :
    ∃ found, search? sizes free = some found := by
  rw [← index_shardsOf] at h
  exact exists_descend_of_isPacking (sized_shardsOf sizes) (length_shardsOf sizes).le h

end GpuCluster.Placement
