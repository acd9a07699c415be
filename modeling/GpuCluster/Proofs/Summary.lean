import Mathlib
import GpuCluster.Proofs.Number.Finite
import GpuCluster.Proofs.Wire.Content
import GpuCluster.Summary

/-!
# What a summary covers

A summary exists as soon as its window is not empty, and every one of its figures is a figure of exactly
the samples in that window.
-/

namespace GpuCluster

open Number

section Peak

variable {x y u : Float} {l : List Float}

theorem larger_eq_or (x y : Float) : Scalar.larger x y = x ∨ Scalar.larger x y = y := by
  change (if x.isNaN then y else if x < y then y else x) = x ∨
    (if x.isNaN then y else if x < y then y else x) = y
  split
  · exact Or.inr rfl
  · split
    · exact Or.inr rfl
    · exact Or.inl rfl

theorem foldl_larger_mem (u : Float) (l : List Float) : l.foldl Scalar.larger u ∈ u :: l := by
  induction l generalizing u with
  | nil => exact List.mem_singleton_self u
  | cons v l ih =>
    rw [List.foldl_cons]
    obtain heq | hmem := List.mem_cons.mp (ih (Scalar.larger u v))
    · rw [heq]
      obtain hu | hv := larger_eq_or u v
      · rw [hu]
        exact List.mem_cons_self
      · rw [hv]
        exact List.mem_cons_of_mem _ List.mem_cons_self
    · exact List.mem_cons_of_mem _ (List.mem_cons_of_mem _ hmem)

theorem fromBelow_le_foldl_larger (u : Float) (l : List Float) :
    ∀ v ∈ u :: l, fromBelow v ≤ fromBelow (l.foldl Scalar.larger u) := by
  induction l generalizing u with
  | nil => simp
  | cons w l ih =>
    have hhead := ih (Scalar.larger u w) _ List.mem_cons_self
    rw [fromBelow_larger] at hhead
    intro v hv
    rw [List.foldl_cons]
    rcases List.mem_cons.mp hv with rfl | hv
    · exact (le_max_left _ _).trans hhead
    · rcases List.mem_cons.mp hv with rfl | hv
      · exact (le_max_right _ _).trans hhead
      · exact ih (Scalar.larger u w) v (List.mem_cons_of_mem _ hv)

end Peak

namespace Sample

variable {s : Sample Float}

theorem bytes_of_fault?_eq_none (h : s.fault? = none) :
    0 ≤ s.used ∧ 0 < s.total ∧ s.used ≤ s.total := by
  simp only [fault?, ite_eq_iff, reduceCtorEq, and_false, false_or, not_lt, not_le] at h
  exact ⟨h.2.1, h.2.2.1, h.2.2.2.1⟩

theorem ofInt_used (h : s.fault? = none) : Scalar.ofInt s.used = Float.ofNat s.used.natAbs :=
  if_neg (not_lt.mpr (bytes_of_fault?_eq_none h).1)

theorem negInfinity_lt_used (h : s.fault? = none) : -1.0 / 0.0 < (Scalar.ofInt s.used : Float) := by
  rw [ofInt_used h]
  exact negInfinity_lt_ofNat _

end Sample

namespace Statistic

variable {values : List Float} {st : Statistic}

/-- A statistic is that of a series. -/
structure Describes (st : Statistic) (values : List Float) : Prop where
  newest : values.getLast? = some st.current
  peak_mem : st.peak ∈ values
  le_peak : ∀ x ∈ values, x ≤ st.peak
  mean_eq : st.mean = values.foldl (· + ·) (-0.0) / Float.ofNat values.length

theorem of?_eq_none_iff : of? values = none ↔ values = [] := by
  rw [of?, Option.map_eq_none_iff, List.getLast?_eq_none_iff]

/-- The search for the peak starts below all doubles but one, and that one is no measurement. -/
theorem describes_of? (h : of? values = some st) (hlt : ∀ x ∈ values, -1.0 / 0.0 < x) :
    st.Describes values := by
  rw [of?, Option.map_eq_some_iff] at h
  obtain ⟨current, hcurrent, rfl⟩ := h
  obtain ⟨x, l, rfl⟩ : ∃ x l, values = x :: l := by
    cases values with
    | nil => cases hcurrent
    | cons x l => exact ⟨x, l, rfl⟩
  have hfirst : (x :: l).foldl Scalar.larger (-1.0 / 0.0) = l.foldl Scalar.larger x := by
    rw [List.foldl_cons]
    congr 1
    exact if_pos (hlt x List.mem_cons_self)
  have hdefined : ∀ y ∈ x :: l, y.isNaN = false := by
    intro y hy
    obtain ⟨-, q, -, hq, -⟩ := lt_iff_position.mp (hlt y hy)
    rw [Bool.eq_false_iff]
    intro hnan
    rw [isNaN_iff_position.mp hnan] at hq
    cases hq
  refine ⟨hcurrent, ?_, fun y hy => ?_, rfl⟩
  · dsimp only
    rw [hfirst]
    exact foldl_larger_mem x l
  · dsimp only
    rw [hfirst]
    exact (le_iff_fromBelow (hdefined y hy)).mpr (fromBelow_le_foldl_larger x l y hy)

end Statistic

namespace Summary

variable {id : DeviceId} {window : Window (Sample Float)} {summary : Summary}

/-- Every figure of a summary is that of the given samples. -/
structure Covers (summary : Summary) (id : DeviceId) (samples : List (Sample Float)) : Prop where
  deviceId_eq : summary.deviceId = id
  samples_eq : summary.samples = samples.length
  used : summary.used.Describes (samples.map fun s => Scalar.ofInt s.used)
  utilization : summary.utilization.Describes (samples.map (·.utilization))
  temperature : summary.temperature.Describes (samples.map (·.temperature))
  power : summary.power.Describes (samples.map (·.power))
  memoryAlerts_eq : summary.memoryAlerts = (samples.filter isNearlyFull).length
  heatAlerts_eq : summary.heatAlerts = (samples.filter isHot).length
  throttling_iff : summary.throttling = true ↔ toleratedHeatAlerts < summary.heatAlerts

theorem ofWindow?_eq_none_iff : ofWindow? id window = none ↔ window.toList = [] := by
  constructor
  · intro hnone
    by_contra hne
    have hstatistic : ∀ f : Sample Float → Float,
        ∃ st, Statistic.of? (window.toList.map f) = some st := by
      intro f
      rw [← Option.ne_none_iff_exists', ne_eq, Statistic.of?_eq_none_iff, List.map_eq_nil_iff]
      exact hne
    obtain ⟨used, hused⟩ := hstatistic fun s => Scalar.ofInt s.used
    obtain ⟨utilization, hutilization⟩ := hstatistic (·.utilization)
    obtain ⟨temperature, htemperature⟩ := hstatistic (·.temperature)
    obtain ⟨power, hpower⟩ := hstatistic (·.power)
    simp only [ofWindow?, hused, hutilization, htemperature, hpower, Option.bind_eq_bind,
      Option.bind_some, reduceCtorEq] at hnone
  · intro hnil
    rw [ofWindow?, hnil]
    rfl

theorem covers_ofWindow? (h : ofWindow? id window = some summary)
    (hvalid : ∀ s ∈ window.toList, s.fault? = none) : summary.Covers id window.toList := by
  simp only [ofWindow?, Option.bind_eq_bind, Option.bind_eq_some_iff] at h
  obtain ⟨used, hused, utilization, hutilization, temperature, htemperature, power, hpower, h⟩ := h
  have hdefined : ∀ f : Sample Float → Float, (∀ s, s.fault? = none → -1.0 / 0.0 < f s) →
      ∀ x ∈ window.toList.map f, -1.0 / 0.0 < x := by
    intro f hf x hx
    obtain ⟨s, hs, rfl⟩ := List.mem_map.mp hx
    exact hf s (hvalid s hs)
  obtain rfl := Option.some.inj h
  exact
    { deviceId_eq := rfl
      samples_eq := rfl
      used := Statistic.describes_of? hused (hdefined _ fun s hs => Sample.negInfinity_lt_used hs)
      utilization := Statistic.describes_of? hutilization
        (hdefined _ fun s hs => negInfinity_lt_of_isFinite (Sample.isFinite_of_fault?_eq_none hs).1)
      temperature := Statistic.describes_of? htemperature
        (hdefined _ fun s hs => negInfinity_lt_of_isFinite (Sample.isFinite_of_fault?_eq_none hs).2.2)
      power := Statistic.describes_of? hpower
        (hdefined _ fun s hs => negInfinity_lt_of_isFinite (Sample.isFinite_of_fault?_eq_none hs).2.1)
      memoryAlerts_eq := List.countP_eq_length_filter
      heatAlerts_eq := List.countP_eq_length_filter
      throttling_iff := decide_eq_true_iff }

end Summary

end GpuCluster
