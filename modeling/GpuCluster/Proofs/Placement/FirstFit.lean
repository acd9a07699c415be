import Mathlib
import GpuCluster.Proofs.Placement.Packing

/-!
# What first fit places

The shards that first fit places form a packing, whether or not it leaves others over. When it leaves
none over, it has placed all of them.
-/

namespace GpuCluster.Placement

variable {size : Nat → Nat}

/-- The sizes of a list of shards that are counted from `start`. -/
def SizedFrom (size : Nat → Nat) (start : Nat) (sizes : List Nat) : Prop :=
  ∀ k (h : k < sizes.length), size (start + k) = sizes[k]

theorem SizedFrom.head {start n : Nat} {sizes : List Nat} (h : SizedFrom size start (n :: sizes)) :
    size start = n :=
  h 0 (Nat.zero_lt_succ _)

theorem SizedFrom.tail {start n : Nat} {sizes : List Nat} (h : SizedFrom size start (n :: sizes)) :
    SizedFrom size (start + 1) sizes := by
  intro k hk
  have := h (k + 1) (by simpa using hk)
  rwa [← Nat.add_assoc, Nat.add_right_comm, List.getElem_cons_succ] at this

theorem sizedFrom_zero (sizes : List Nat) : SizedFrom (sizes.getD · 0) 0 sizes := by
  intro k hk
  simp [hk]

theorem room_of_findIdx? {free : List Nat} {n position : Nat}
    (h : free.findIdx? (n ≤ ·) = some position) :
    position < free.length ∧ n ≤ free.getD position 0 := by
  obtain ⟨hpos, hroom, -⟩ := List.findIdx?_eq_some_iff_getElem.mp h
  refine ⟨hpos, ?_⟩
  rw [List.getD_eq_getElem _ _ hpos]
  simpa using hroom

theorem isPacking_placedShards {start : Nat} {sizes : List Nat} (h : SizedFrom size start sizes)
    (free : List Nat) :
    IsPacking size free ((placedShards (firstFit sizes free) start).map Prod.fst)
      (placedShards (firstFit sizes free) start) := by
  induction sizes generalizing start free with
  | nil => exact .nil
  | cons n sizes ih =>
    rw [firstFit]
    split
    · rename_i position hfound
      obtain ⟨hpos, hroom⟩ := room_of_findIdx? hfound
      have hrest := ih h.tail (takeFrom free position n)
      rw [← h.head] at hroom hrest ⊢
      exact hrest.cons hpos hroom
    · exact ih h.tail free

theorem keys_placedShards {sizes : List Nat} {free : List Nat} {start : Nat}
    (h : refusedShards (firstFit sizes free) sizes start = []) :
    (placedShards (firstFit sizes free) start).map Prod.fst =
      List.range' start sizes.length := by
  induction sizes generalizing free start with
  | nil => rfl
  | cons n sizes ih =>
    rw [firstFit] at h ⊢
    cases hfound : free.findIdx? (n ≤ ·) with
    | some position =>
      rw [hfound] at h
      rw [placedShards, List.map_cons, ih h, List.length_cons, List.range'_succ]
    | none =>
      rw [hfound] at h
      exact absurd h (List.cons_ne_nil _ _)

theorem isPacking_of_firstFitAll? {sizes free : List Nat} {placed : List (Nat × Nat)}
    (h : firstFitAll? sizes free = some placed) :
    IsPacking (sizes.getD · 0) free (List.range sizes.length) placed := by
  rw [firstFitAll?] at h
  split at h
  · rename_i hnone
    obtain rfl := Option.some.inj h
    have hkeys := keys_placedShards (List.isEmpty_iff.mp hnone)
    rw [List.range_eq_range', ← hkeys]
    exact isPacking_placedShards (sizedFrom_zero sizes) free
  · cases h

end GpuCluster.Placement
