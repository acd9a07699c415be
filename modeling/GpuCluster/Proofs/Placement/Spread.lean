import Mathlib
import GpuCluster.Placement.Spread
import GpuCluster.Proofs.Number.Extremes

/-!
# Whether a pool counts as heterogeneous

The order in which the devices of a pool are listed does not matter: the extremes of memory are the
same, and those of utilization are alike, so that their difference passes the same tests.
-/

namespace GpuCluster.Placement

theorem largest_eq_of_perm {l l' : List Nat} (h : l.Perm l') : largest l = largest l' :=
  h.foldl_op_eq

theorem memorySpread_eq_of_perm {α : Type} [Scalar α] {totals totals' : List Nat}
    (h : totals.Perm totals') : (memorySpread totals : α) = memorySpread totals' := by
  have hlow : ∀ high, totals.foldl min high = totals'.foldl min high := fun _ => h.foldl_op_eq
  simp only [memorySpread, hlow, largest_eq_of_perm h]

theorem any_utilizationSpread?_eq_of_perm {utilizations utilizations' : List Float}
    (h : utilizations.Perm utilizations') (tolerance : Float) :
    (utilizationSpread? utilizations).any (Scalar.less tolerance) =
      (utilizationSpread? utilizations').any (Scalar.less tolerance) := by
  cases utilizations with
  | nil => rw [h.nil_eq]
  | cons u rest =>
    cases utilizations' with
    | nil => cases h.eq_nil
    | cons u' rest' =>
      obtain ⟨hlarger, hsmaller⟩ := Number.position_extremes_eq_of_perm h
      have hspread := Number.position_sub_congr hlarger hsmaller
      exact decide_eq_decide.mpr (Number.lt_congr_right hspread)

theorem isHeterogeneous_eq_of_perm {pool pool' : List PoolDevice} (h : pool.Perm pool')
    (memoryTolerance utilizationTolerance : Float) :
    isHeterogeneous pool memoryTolerance utilizationTolerance =
      isHeterogeneous pool' memoryTolerance utilizationTolerance := by
  simp only [isHeterogeneous, exceedsTolerance, List.map_map]
  rw [h.length_eq, memorySpread_eq_of_perm (h.map _), any_utilizationSpread?_eq_of_perm (h.map _)]

end GpuCluster.Placement
