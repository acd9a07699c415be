import Mathlib
import GpuCluster.Proofs.Distribution.Cap

/-!
# Levels under a cap

The rounds under a cap raise all open devices together, as water rises in vessels that are full at the
cap: a device that has no room left stays behind, and the last round may end before it has reached all
devices. So one number of rounds and one number of devices say what every device ends with.
-/

namespace GpuCluster.Distribution

/-! ## Levels -/

/-- A holding cut off at the cap, after a number of rounds. -/
def Holding.filled (cap rounds : Nat) (h : Holding) : Holding :=
  { h with count := min h.count cap + if h.isOpen then min (cap - min h.count cap) rounds else 0 }

section Filled

variable {cap : Nat} {h : Holding} {holdings : List Holding}

theorem Holding.filled_of_le (hle : h.count ≤ cap) : h.filled cap 0 = h := by
  rw [filled, min_eq_left hle, Nat.min_zero, ite_self, Nat.add_zero]

end Filled

/-! ## Rounds -/

section Rounds

variable {cap items : Nat} {holdings result : List Holding}

theorem map_filled_zero (cap : Nat) (holdings : List Holding) :
    holdings.map (·.filled cap 0) = cutOff cap holdings := by
  apply List.map_congr_left
  intro h _
  rw [Holding.filled, Nat.min_zero, ite_self, Nat.add_zero]

theorem excess_eq_zero (h : ∀ hd ∈ holdings, hd.count ≤ cap) : excess cap holdings = 0 := by
  induction holdings with
  | nil => rfl
  | cons hd holdings ih =>
    rw [List.forall_mem_cons] at h
    rw [excess, List.map_cons, Number.total_cons, Nat.sub_eq_zero_of_le h.1, Nat.zero_add]
    exact ih h.2

theorem applyCap_eq_self (h : ∀ hd ∈ holdings, hd.count ≤ cap) : applyCap cap holdings = holdings := by
  have hcut : cutOff cap holdings = holdings := by
    rw [← map_filled_zero]
    exact (List.map_congr_left fun hd hmem => Holding.filled_of_le (h hd hmem)).trans (List.map_id _)
  rw [applyCap, excess_eq_zero h, hcut]
  rfl

end Rounds

/-! ## Filling -/

end GpuCluster.Distribution
