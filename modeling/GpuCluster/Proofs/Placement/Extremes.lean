import Mathlib
import GpuCluster.Placement.Spread
import GpuCluster.Proofs.Number.Rounded

/-!
# The extreme devices stand for all pairs

Whether two devices of a pool differ beyond the tolerances is decided on the extremes alone. For
utilization this is plain: no two numbers are further apart than the largest and the smallest. The
difference of two memory sizes is relative to the larger one, `1 - small / large`, which grows with the
larger and falls with the smaller size. All numbers are exact here.
-/

namespace GpuCluster.Placement

open Number (Rounded Rounding)
open Scalar

/-! ## Pairs -/

/-- How much less the smaller of two memory sizes is than the larger one, as a percentage of that. -/
noncomputable def memoryDifference (m n : Nat) : ℝ :=
  if max m n = 0 then 0 else ((max m n : Nat) - (min m n : Nat) : ℝ) / (max m n : Nat) * (100 : Nat)

/-- Two devices, known by their memory and utilization, differ beyond the tolerances. -/
def Differ (memoryTolerance utilizationTolerance : ℝ) (d e : Nat × Rounded .exact) : Prop :=
  memoryTolerance < memoryDifference d.1 e.1 ∨ utilizationTolerance < |d.2.toReal - e.2.toReal|

section Memory

variable {low m n high : Nat}

theorem memoryDifference_self (n : Nat) : memoryDifference n n = 0 := by
  simp [memoryDifference]

theorem memoryDifference_nonneg (m n : Nat) : 0 ≤ memoryDifference m n := by
  rw [memoryDifference]
  split
  · exact le_rfl
  · have hle : ((min m n : Nat) : ℝ) ≤ (max m n : Nat) := Nat.cast_le.mpr min_le_max
    exact mul_nonneg (div_nonneg (sub_nonneg.mpr hle) (Nat.cast_nonneg _)) (by norm_num)

theorem memoryDifference_of_pos (h : 0 < max m n) :
    memoryDifference m n = (1 - (min m n : Nat) / (max m n : Nat)) * (100 : Nat) := by
  have hne : ((max m n : Nat) : ℝ) ≠ 0 := Nat.cast_ne_zero.mpr h.ne'
  rw [memoryDifference, if_neg h.ne', sub_div, div_self hne]

/-- The memory sizes of two devices differ no more than those of the extreme ones. -/
theorem memoryDifference_le (hm : m ∈ Set.Icc low high) (hn : n ∈ Set.Icc low high) :
    memoryDifference m n ≤ memoryDifference high low := by
  have hhigh : max m n ≤ high := max_le hm.2 hn.2
  have hlow : low ≤ min m n := le_min hm.1 hn.1
  have hle : low ≤ high := hm.1.trans hm.2
  rcases Nat.eq_zero_or_pos (max m n) with hzero | hpos
  · rw [memoryDifference, if_pos hzero]
    exact memoryDifference_nonneg high low
  · have hpos' : 0 < max high low := hpos.trans_le (hhigh.trans (le_max_left _ _))
    rw [memoryDifference_of_pos hpos, memoryDifference_of_pos hpos', max_eq_left hle, min_eq_right hle]
    gcongr

end Memory

/-! ## Extremes of a list -/

theorem isGreatest_foldl_max {α : Type} [LinearOrder α] (a : α) (l : List α) :
    IsGreatest {x | x ∈ a :: l} (l.foldl max a) :=
  List.max?_eq_some_iff.mp List.max?_cons'

theorem isLeast_foldl_min {α : Type} [LinearOrder α] (a : α) (l : List α) :
    IsLeast {x | x ∈ a :: l} (l.foldl min a) :=
  List.min?_eq_some_iff.mp List.min?_cons'

theorem isGreatest_largest {totals : List Nat} (hne : totals ≠ []) :
    IsGreatest {n | n ∈ totals} (largest totals) := by
  obtain ⟨hmem, hbound⟩ := isGreatest_foldl_max 0 totals
  have hle : ∀ n ∈ totals, n ≤ largest totals := fun n hn => hbound (List.mem_cons_of_mem _ hn)
  refine ⟨?_, hle⟩
  rcases List.mem_cons.mp hmem with hzero | hmem
  · obtain ⟨n, hn⟩ := List.exists_mem_of_ne_nil _ hne
    have heq : n = largest totals := le_antisymm (hle n hn) (hzero.trans_le (Nat.zero_le n))
    exact heq ▸ hn
  · exact hmem

/-- The least memory is looked for from the largest on. -/
theorem isLeast_foldl_min_largest {totals : List Nat} (hne : totals ≠ []) :
    IsLeast {n | n ∈ totals} (totals.foldl min (largest totals)) := by
  obtain ⟨hmem, hbound⟩ := isLeast_foldl_min (largest totals) totals
  have hlargest : largest totals ∈ totals := (isGreatest_largest hne).1
  refine ⟨?_, fun n hn => hbound (List.mem_cons_of_mem _ hn)⟩
  rcases List.mem_cons.mp hmem with heq | hmem
  · rwa [Set.mem_ofPred_eq, heq]
  · exact hmem

/-! ## Spreads -/

theorem toReal_memorySpread {totals : List Nat} (hne : totals ≠ []) :
    (memorySpread totals : Rounded .exact).toReal =
      memoryDifference (largest totals) (totals.foldl min (largest totals)) := by
  have hle : totals.foldl min (largest totals) ≤ largest totals :=
    (isLeast_foldl_min_largest hne).2 (isGreatest_largest hne).1
  rw [memoryDifference, max_eq_left hle, min_eq_right hle, memorySpread]
  split
  · exact Rounded.toReal_zero
  · simp [Nat.cast_sub hle]

theorem lt_memorySpread_iff {totals : List Nat} (hne : totals ≠ []) (tolerance : ℝ) :
    tolerance < (memorySpread totals : Rounded .exact).toReal ↔
      ∃ m ∈ totals, ∃ n ∈ totals, tolerance < memoryDifference m n := by
  obtain ⟨hhigh, hle⟩ := isGreatest_largest hne
  obtain ⟨hlow, hge⟩ := isLeast_foldl_min_largest hne
  rw [toReal_memorySpread hne]
  constructor
  · exact fun h => ⟨_, hhigh, _, hlow, h⟩
  · rintro ⟨m, hm, n, hn, h⟩
    exact h.trans_le (memoryDifference_le ⟨hge hm, hle hm⟩ ⟨hge hn, hle hn⟩)

theorem toReal_foldl_larger (u : Rounded .exact) (rest : List (Rounded .exact)) :
    (rest.foldl larger u).toReal = (rest.map Rounded.toReal).foldl max u.toReal := by
  rw [List.foldl_map]
  exact (List.foldl_hom Rounded.toReal fun x y => (Rounded.toReal_larger x y).symm).symm

theorem toReal_foldl_smaller (u : Rounded .exact) (rest : List (Rounded .exact)) :
    (rest.foldl smaller u).toReal = (rest.map Rounded.toReal).foldl min u.toReal := by
  rw [List.foldl_map]
  exact (List.foldl_hom Rounded.toReal fun x y => (Rounded.toReal_smaller x y).symm).symm

theorem any_less_utilizationSpread?_iff (utilizations : List (Rounded .exact))
    (tolerance : Rounded .exact) :
    (utilizationSpread? utilizations).any (less tolerance) = true ↔
      ∃ u ∈ utilizations, ∃ v ∈ utilizations, tolerance.toReal < |u.toReal - v.toReal| := by
  cases utilizations with
  | nil => simp [utilizationSpread?]
  | cons u rest =>
    obtain ⟨hhigh, hle⟩ := isGreatest_foldl_max u.toReal (rest.map Rounded.toReal)
    obtain ⟨hlow, hge⟩ := isLeast_foldl_min u.toReal (rest.map Rounded.toReal)
    rw [← toReal_foldl_larger, ← List.map_cons] at hhigh hle
    rw [← toReal_foldl_smaller, ← List.map_cons] at hlow hge
    rw [utilizationSpread?, Option.any_some, Rounded.less_iff, Rounded.toReal_sub,
      Rounding.round_exact]
    constructor
    · intro h
      obtain ⟨x, hx, hxhigh⟩ := List.mem_map.mp hhigh
      obtain ⟨y, hy, hylow⟩ := List.mem_map.mp hlow
      rw [← hxhigh, ← hylow] at h
      exact ⟨x, hx, y, hy, h.trans_le (le_abs_self _)⟩
    · rintro ⟨x, hx, y, hy, h⟩
      have hx' := List.mem_map_of_mem (f := Rounded.toReal) hx
      have hy' := List.mem_map_of_mem (f := Rounded.toReal) hy
      exact h.trans_le (abs_sub_le_of_le_of_le (hge hx') (hle hx') (hge hy') (hle hy'))

/-! ## Pools -/

/-- At least two devices, known by their memory and utilization, whose extremes exceed the tolerances. -/
def isMixed {α : Type} [Scalar α] (devices : List (Nat × α)) (memoryTolerance utilizationTolerance : α) :
    Bool :=
  2 ≤ devices.length && exceedsTolerance devices memoryTolerance utilizationTolerance

theorem isHeterogeneous_eq_isMixed (pool : List PoolDevice)
    (memoryTolerance utilizationTolerance : Float) :
    isHeterogeneous pool memoryTolerance utilizationTolerance =
      isMixed (pool.map fun d => (d.total, d.utilization)) memoryTolerance utilizationTolerance := by
  rw [isHeterogeneous, isMixed, List.length_map]

section Pool

variable {devices : List (Nat × Rounded .exact)} {memoryTolerance utilizationTolerance : Rounded .exact}

theorem exceedsTolerance_iff (hne : devices ≠ []) :
    exceedsTolerance devices memoryTolerance utilizationTolerance = true ↔
      ∃ d ∈ devices, ∃ e ∈ devices, Differ memoryTolerance.toReal utilizationTolerance.toReal d e := by
  rw [exceedsTolerance, Bool.or_eq_true, Rounded.less_iff, any_less_utilizationSpread?_iff,
    lt_memorySpread_iff (by simpa using hne)]
  simp only [Differ, List.mem_map, exists_exists_and_eq_and, and_or_left, exists_or]

theorem not_differ_self (hmemory : 0 ≤ memoryTolerance.toReal)
    (hutilization : 0 ≤ utilizationTolerance.toReal) (d : Nat × Rounded .exact) :
    ¬Differ memoryTolerance.toReal utilizationTolerance.toReal d d := by
  rw [Differ, memoryDifference_self, sub_self, abs_zero, not_or]
  exact ⟨hmemory.not_gt, hutilization.not_gt⟩

/--
For tolerances that are not negative, a pool counts as heterogeneous exactly when some two of its devices
differ by more than the tolerances: in memory, relative to the larger of the two, or in utilization. This
is said of exact numbers; on doubles the same formula is rounded.
-/
theorem isMixed_iff_exists_differ (hmemory : 0 ≤ memoryTolerance.toReal)
    (hutilization : 0 ≤ utilizationTolerance.toReal) :
    (isMixed devices memoryTolerance utilizationTolerance = true ↔
      ∃ i j : Fin devices.length, i ≠ j ∧
        Differ memoryTolerance.toReal utilizationTolerance.toReal (devices.get i) (devices.get j)) ∧
    ∀ (pool : List PoolDevice) (memoryTolerance utilizationTolerance : Float),
      isHeterogeneous pool memoryTolerance utilizationTolerance =
        isMixed (pool.map fun d => (d.total, d.utilization)) memoryTolerance utilizationTolerance := by
  refine ⟨?_, isHeterogeneous_eq_isMixed⟩
  rw [isMixed, Bool.and_eq_true, decide_eq_true_iff]
  constructor
  · rintro ⟨hlength, hexceeds⟩
    have hne : devices ≠ [] := List.ne_nil_of_length_pos (by omega)
    obtain ⟨d, hd, e, he, hdiffer⟩ := (exceedsTolerance_iff hne).mp hexceeds
    obtain ⟨i, rfl⟩ := List.mem_iff_get.mp hd
    obtain ⟨j, rfl⟩ := List.mem_iff_get.mp he
    refine ⟨i, j, ?_, hdiffer⟩
    rintro rfl
    exact not_differ_self hmemory hutilization _ hdiffer
  · rintro ⟨i, j, hne, hdiffer⟩
    have hlength : 2 ≤ devices.length := by
      have hval := Fin.val_ne_of_ne hne
      omega
    refine ⟨hlength, (exceedsTolerance_iff (List.ne_nil_of_length_pos (by omega))).mpr ?_⟩
    exact ⟨_, List.get_mem _ _, _, List.get_mem _ _, hdiffer⟩

/-- A device without memory beside one that has some, both idle. -/
theorem isMixed_iff_exists_differ_of_empty_memory :
    let zero : Rounded .exact := Rounding.exact.apply 0
    let tolerance : Rounded .exact := Rounding.exact.apply 20
    0 ≤ tolerance.toReal ∧ isMixed [(0, zero), (16, zero)] tolerance tolerance = true := by
  intro zero tolerance
  have htolerance : 0 ≤ tolerance.toReal := by norm_num [tolerance]
  refine ⟨htolerance, (isMixed_iff_exists_differ htolerance htolerance).1.mpr ⟨0, 1, by decide, ?_⟩⟩
  refine Or.inl ?_
  norm_num [tolerance, memoryDifference]

end Pool

end GpuCluster.Placement
