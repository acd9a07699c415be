import Mathlib
import GpuCluster.Proofs.Placement.FirstChoice

/-!
# Seatings

A seating gives shards positions, which unlike the ids of devices are never repeated. First fit computes
the one seating in which every shard in its turn has the first position with room. The pass takes from no
position more than it has free, and a shard that it leaves without a position has room on none even after
the pass.
-/

namespace GpuCluster.Placement

variable {sizes free : List Nat}

/-- A position for every shard, or none. -/
abbrev Seating (sizes : List Nat) := Fin sizes.length → Option Nat

namespace Seating

/-- Bytes that the shards before one have taken from a position. -/
def takenBefore (seat : Seating sizes) (k position : Nat) : Nat :=
  ∑ j : Fin sizes.length, if j < k ∧ seat j = some position then sizes.get j else 0

/-- Bytes that all shards have taken from a position. -/
def taken (seat : Seating sizes) (position : Nat) : Nat :=
  ∑ j, if seat j = some position then sizes.get j else 0

/-- A position has room for a shard beside the shards before it. -/
def HasRoom (seat : Seating sizes) (free : List Nat) (i : Fin sizes.length) (position : Nat) : Prop :=
  position < free.length ∧ seat.takenBefore i position + sizes.get i ≤ free.getD position 0

/-- Every shard in its turn has the first position with room, if there is one. -/
def FirstFits (seat : Seating sizes) (free : List Nat) : Prop :=
  ∀ i position, seat i = some position ↔
    seat.HasRoom free i position ∧ ∀ q < position, ¬seat.HasRoom free i q

variable {seat other : Seating sizes}

theorem takenBefore_le_taken (k position : Nat) :
    seat.takenBefore k position ≤ seat.taken position := by
  refine Finset.sum_le_sum fun j _ => ?_
  split
  · rename_i h
    rw [if_pos h.2]
  · exact Nat.zero_le _

theorem FirstFits.unique (h : seat.FirstFits free) (h' : other.FirstFits free) : seat = other :=
  eq_of_follows_taken (fun i taken position =>
    (position < free.length ∧ taken position + sizes.get i ≤ free.getD position 0) ∧
      ∀ q < position, ¬(q < free.length ∧ taken q + sizes.get i ≤ free.getD q 0)) h h'

theorem FirstFits.eq_none_iff (h : seat.FirstFits free) {i : Fin sizes.length} :
    seat i = none ↔ ∀ position, ¬seat.HasRoom free i position := by
  constructor
  · intro hnone position hroom
    -- The least position with room would have been taken.
    have hex : ∃ position, seat.HasRoom free i position := ⟨position, hroom⟩
    classical
    have hfirst := (h i (Nat.find hex)).mpr ⟨Nat.find_spec hex, fun q hq => Nat.find_min hex hq⟩
    rw [hnone] at hfirst
    cases hfirst
  · intro hnot
    refine Option.eq_none_iff_forall_ne_some.mpr fun position hsome => ?_
    exact hnot position ((h i position).mp hsome).1

theorem takenBefore_succ (seat : Seating sizes) (i : Fin sizes.length) (position : Nat) :
    seat.takenBefore (i + 1) position =
      seat.takenBefore i position + if seat i = some position then sizes.get i else 0 := by
  have hlast := Finset.sum_ite_eq' Finset.univ i fun j =>
    if seat j = some position then sizes.get j else 0
  rw [if_pos (Finset.mem_univ i)] at hlast
  rw [takenBefore, takenBefore, ← hlast, ← Finset.sum_add_distrib]
  refine Finset.sum_congr rfl fun j _ => ?_
  by_cases hj : j = i
  · simp [hj]
  · have hne : j.val ≠ i.val := fun h => hj (Fin.ext h)
    have hlt : j.val < i.val + 1 ↔ j.val < i.val := by omega
    simp [hj, hlt]

theorem takenBefore_length (seat : Seating sizes) (position : Nat) :
    seat.takenBefore sizes.length position = seat.taken position := by
  simp [takenBefore, taken]

/-- The pass takes from no position more than it has free. -/
theorem FirstFits.taken_le (h : seat.FirstFits free) (position : Nat) :
    seat.taken position ≤ free.getD position 0 := by
  have key : ∀ k ≤ sizes.length, seat.takenBefore k position ≤ free.getD position 0 := by
    intro k
    induction k with
    | zero => simp [takenBefore]
    | succ k ih =>
      intro hk
      have hbefore := ih (Nat.le_of_succ_le hk)
      rw [seat.takenBefore_succ ⟨k, hk⟩]
      split
      · rename_i hseat
        exact ((h _ _).mp hseat).1.2
      · exact hbefore
  exact seat.takenBefore_length position ▸ key sizes.length le_rfl

/-- A shard without a position is larger than what is left on any position after the pass. -/
theorem FirstFits.free_lt (h : seat.FirstFits free) {i : Fin sizes.length} (hnone : seat i = none)
    {position : Nat} (hposition : position < free.length) :
    free.getD position 0 < seat.taken position + sizes.get i := by
  have hnot := h.eq_none_iff.mp hnone position
  have hle := seat.takenBefore_le_taken i position
  rw [HasRoom, not_and, not_le] at hnot
  exact (hnot hposition).trans_le (Nat.add_le_add_right hle _)

/-- The seating that first fit computes. -/
def ofFirstFit (sizes free : List Nat) : Seating sizes := fun i => positionAt? sizes free i

theorem findIdx?_room_iff {left : List Nat} {n position : Nat} :
    left.findIdx? (n ≤ ·) = some position ↔
      (position < left.length ∧ n ≤ left.getD position 0) ∧
        ∀ q < position, ¬(q < left.length ∧ n ≤ left.getD q 0) := by
  rw [List.findIdx?_eq_some_iff_getElem]
  constructor
  · rintro ⟨hlt, hroom, hnot⟩
    refine ⟨⟨hlt, ?_⟩, fun q hq h => ?_⟩
    · simpa [hlt] using hroom
    · have hfirst := hnot q hq
      rw [List.getD_eq_getElem _ _ h.1] at h
      simp [h.2] at hfirst
  · rintro ⟨⟨hlt, hroom⟩, hnot⟩
    refine ⟨hlt, ?_, fun q hq h => hnot q hq ⟨hq.trans hlt, ?_⟩⟩
    · simpa [hlt] using hroom
    · simpa [hq.trans hlt] using h

theorem firstFits_ofFirstFit (sizes free : List Nat) : (ofFirstFit sizes free).FirstFits free := by
  intro i position
  obtain ⟨left, hlength, hleft, hat⟩ := exists_left sizes free i.isLt
  have hroom : ∀ q, (ofFirstFit sizes free).HasRoom free i q ↔
      q < left.length ∧ sizes.get i ≤ left.getD q 0 := by
    intro q
    have htaken : (ofFirstFit sizes free).takenBefore i q = usedBefore sizes free i q := rfl
    rw [HasRoom, htaken, ← hlength, ← hleft q, Nat.add_le_add_iff_left]
  rw [ofFirstFit, hat, findIdx?_room_iff]
  simp only [hroom]

theorem ofFirstFit_eq_none_iff {i : Fin sizes.length} :
    ofFirstFit sizes free i = none ↔ ∃ n, (firstFit sizes free)[i.val]? = some (.refused n) := by
  have hlt : i.val < (firstFit sizes free).length := (length_firstFit sizes free).symm ▸ i.isLt
  rw [ofFirstFit, positionAt?, List.getElem?_eq_getElem hlt, Option.bind_some]
  cases (firstFit sizes free)[i.val] <;> simp [Fate.position?]

end Seating

end GpuCluster.Placement
