import Mathlib
import GpuCluster.Proofs.Number.Rounded
import GpuCluster.Score

/-!
# A worse state scores no higher

Every part of a score lies between zero and one, and none of them grows when a device has more memory in
use, more to compute, a higher temperature or less precision. The score is their combination with weights
that are not negative. This holds in exact arithmetic, and with any rounding that keeps the order.
-/

namespace GpuCluster

open Number (Rounded Rounding)
open Scalar

variable {r : Rounding}

/-! ## Policies -/

/-- What the formulas need of a policy. -/
structure ScoringPolicy.Weighs (p : ScoringPolicy (Rounded r)) : Prop where
  memoryWeight_nonneg : 0 ≤ p.memoryWeight.toReal
  utilizationWeight_nonneg : 0 ≤ p.utilizationWeight.toReal
  highWater_lt : p.highWater.toReal < p.critical.toReal
  reducedFactor_nonneg : 0 ≤ p.reducedFactor.toReal
  reducedFactor_le_one : p.reducedFactor.toReal ≤ 1

theorem firstFault_eq_none_iff {β : Type} {checks : List (Option β)} :
    firstFault checks = none ↔ ∀ check ∈ checks, check = none :=
  List.findSome?_eq_none_iff

theorem ScoringPolicy.fault?_eq_none_iff {p : ScoringPolicy (Rounded r)} :
    p.fault? = none ↔ p.Weighs ∧
      (distance (p.memoryWeight + p.utilizationWeight) (ofNat 1)).toReal ≤ (weightTolerance : Rounded r).toReal := by
  rw [fault?, firstFault_eq_none_iff]
  simp only [notFinite?, isBetween, Rounded.isFinite_eq_true, Bool.not_true, Bool.false_eq_true,
    not_false_eq_true, List.find?_cons_of_neg, List.find?_nil, Option.map_none, List.forall_mem_cons,
    ite_eq_right_iff, reduceCtorEq, imp_false, Bool.or_eq_true, not_or, Bool.not_eq_true',
    Bool.not_eq_false, Bool.and_eq_true, Rounded.less_iff, Rounded.atMost_iff, Rounded.toReal_zero,
    Rounded.toReal_one, not_lt, not_le]
  constructor
  · rintro ⟨-, ⟨hmemory, hutilization⟩, hsum, hcritical, ⟨hfactor, hfactor'⟩, -⟩
    exact ⟨⟨hmemory, hutilization, hcritical, hfactor, hfactor'⟩, hsum⟩
  · rintro ⟨⟨hmemory, hutilization, hcritical, hfactor, hfactor'⟩, hsum⟩
    exact ⟨trivial, ⟨hmemory, hutilization⟩, hsum, hcritical, ⟨hfactor, hfactor'⟩, List.forall_mem_nil _⟩

namespace Score

/-! ## Memory -/

section Memory

variable {free free' capacity : Nat}

theorem toReal_memoryPart_mem (hle : free ≤ capacity) :
    (memoryPart free capacity : Rounded r).toReal ∈ Set.Icc 0 1 := by
  rw [memoryPart]
  split
  · simp
  · have hfree := r.round_nonneg (Nat.cast_nonneg free)
    have hcapacity := r.round_nonneg (Nat.cast_nonneg capacity)
    have hround := r.monotone (Nat.cast_le.mpr hle)
    constructor
    · exact r.round_nonneg (div_nonneg hfree hcapacity)
    · exact r.round_le_one (div_le_one_of_le₀ hround hcapacity)

theorem toReal_memoryPart_mono (hle : free' ≤ free) :
    (memoryPart free' capacity : Rounded r).toReal ≤ (memoryPart free capacity : Rounded r).toReal := by
  rw [memoryPart, memoryPart]
  split
  · exact le_rfl
  · apply r.monotone
    exact div_le_div_of_nonneg_right (r.monotone (Nat.cast_le.mpr hle)) (r.round_nonneg (Nat.cast_nonneg _))

end Memory

/-! ## Compute capacity -/

section Compute

theorem toReal_clamp_mem (x : Rounded r) : (clamp x (ofNat 0) (ofNat 1)).toReal ∈ Set.Icc 0 1 := by
  rw [Rounded.toReal_clamp (by simp), Rounded.toReal_zero, Rounded.toReal_one]
  exact ⟨le_max_left _ _, max_le zero_le_one (min_le_left _ _)⟩

theorem toReal_clamp_mono {x x' : Rounded r} (hle : x'.toReal ≤ x.toReal) :
    (clamp x' (ofNat 0) (ofNat 1)).toReal ≤ (clamp x (ofNat 0) (ofNat 1)).toReal := by
  rw [Rounded.toReal_clamp (by simp), Rounded.toReal_clamp (by simp)]
  gcongr

theorem toReal_computePart_mem (utilization : Rounded r) :
    (computePart utilization).toReal ∈ Set.Icc 0 1 := toReal_clamp_mem _

theorem toReal_computePart_anti {utilization utilization' : Rounded r}
    (hle : utilization.toReal ≤ utilization'.toReal) :
    (computePart utilization').toReal ≤ (computePart utilization).toReal := by
  apply toReal_clamp_mono
  apply r.monotone
  apply sub_le_sub_left
  apply r.monotone
  exact div_le_div_of_nonneg_right hle (r.round_nonneg (Nat.cast_nonneg _))

end Compute

/-! ## Temperature -/

section Penalty

variable {p : ScoringPolicy (Rounded r)}

theorem thermalPenalty_cases (hp : p.Weighs) (t : Rounded r) :
    (t.toReal ≤ p.highWater.toReal ∧ (thermalPenalty p t).toReal = 1) ∨
    (p.highWater.toReal < t.toReal ∧ t.toReal < p.critical.toReal ∧
      (thermalPenalty p t).toReal =
        r.round (r.round (p.critical.toReal - t.toReal) / r.round (p.critical.toReal - p.highWater.toReal))) ∨
    (p.critical.toReal ≤ t.toReal ∧ (thermalPenalty p t).toReal = 0) := by
  have hlt := hp.highWater_lt
  rw [thermalPenalty]
  simp only [Rounded.atMost_iff]
  split
  · rename_i hcool
    exact Or.inl ⟨hcool, Rounded.toReal_one⟩
  · rename_i hwarm
    split
    · rename_i hhot
      exact Or.inr (Or.inr ⟨hhot, Rounded.toReal_zero⟩)
    · rename_i hhot
      exact Or.inr (Or.inl ⟨not_le.mp hwarm, not_le.mp hhot, rfl⟩)

theorem toReal_thermalPenalty_mem (hp : p.Weighs) (t : Rounded r) :
    (thermalPenalty p t).toReal ∈ Set.Icc 0 1 := by
  rcases thermalPenalty_cases hp t with ⟨-, heq⟩ | ⟨hwarm, hhot, heq⟩ | ⟨-, heq⟩
  · simp [heq]
  · have hnum := r.round_nonneg (sub_nonneg.mpr hhot.le)
    have hden := r.round_nonneg (sub_nonneg.mpr hp.highWater_lt.le)
    have hle := r.monotone (sub_le_sub_left hwarm.le p.critical.toReal)
    rw [heq]
    exact ⟨r.round_nonneg (div_nonneg hnum hden), r.round_le_one (div_le_one_of_le₀ hle hden)⟩
  · simp [heq]

theorem thermalPenalty_eq_zero (hp : p.Weighs) {t : Rounded r} (h : p.critical.toReal ≤ t.toReal) :
    (thermalPenalty p t).toReal = 0 := by
  rcases thermalPenalty_cases hp t with ⟨hcool, -⟩ | ⟨-, hhot, -⟩ | ⟨-, heq⟩
  · exact absurd (h.trans hcool) hp.highWater_lt.not_ge
  · exact absurd h hhot.not_ge
  · exact heq

theorem toReal_thermalPenalty_anti (hp : p.Weighs) {t t' : Rounded r} (hle : t.toReal ≤ t'.toReal) :
    (thermalPenalty p t').toReal ≤ (thermalPenalty p t).toReal := by
  rcases thermalPenalty_cases hp t with ⟨-, heq⟩ | ⟨hwarm, -, heq⟩ | ⟨hhot, heq⟩
  · rw [heq]
    exact (toReal_thermalPenalty_mem hp t').2
  · rcases thermalPenalty_cases hp t' with ⟨hcool, -⟩ | ⟨-, -, heq'⟩ | ⟨-, heq'⟩
    · exact absurd (hle.trans hcool) hwarm.not_ge
    · rw [heq, heq']
      apply r.monotone
      apply div_le_div_of_nonneg_right
      · exact r.monotone (sub_le_sub_left hle _)
      · exact r.round_nonneg (sub_nonneg.mpr hp.highWater_lt.le)
    · rw [heq']
      exact (toReal_thermalPenalty_mem hp t).1
  · rw [heq, thermalPenalty_eq_zero hp (hhot.trans hle)]

end Penalty

/-! ## Scores -/

section Scores

variable {p : ScoringPolicy (Rounded r)} {s s' : Score (Rounded r)} {c c' : Candidate (Rounded r)}

/-- A score and all its parts lie between zero and one. -/
structure InRange (s : Score (Rounded r)) : Prop where
  value : s.value.toReal ∈ Set.Icc 0 1
  memory : s.memory.toReal ∈ Set.Icc 0 1
  compute : s.compute.toReal ∈ Set.Icc 0 1
  penalty : s.penalty.toReal ∈ Set.Icc 0 1
  modeFactor : s.modeFactor.toReal ∈ Set.Icc 0 1

/-- `s'` has no part that is larger than in `s`. -/
structure LessApt (s' s : Score (Rounded r)) : Prop where
  free : s'.free ≤ s.free
  memory : s'.memory.toReal ≤ s.memory.toReal
  compute : s'.compute.toReal ≤ s.compute.toReal
  penalty : s'.penalty.toReal ≤ s.penalty.toReal
  modeFactor : s'.modeFactor.toReal ≤ s.modeFactor.toReal

theorem toReal_modeFactor_mem (hp : p.Weighs) (c : Candidate (Rounded r)) :
    (of p c).modeFactor.toReal ∈ Set.Icc 0 1 := by
  rw [of]
  dsimp only
  split
  · exact ⟨hp.reducedFactor_nonneg, hp.reducedFactor_le_one⟩
  · simp

theorem inRange_of (hp : p.Weighs) (c : Candidate (Rounded r)) : (of p c).InRange where
  value := toReal_clamp_mem _
  memory := toReal_memoryPart_mem (Nat.sub_le _ _)
  compute := toReal_computePart_mem _
  penalty := toReal_thermalPenalty_mem hp _
  modeFactor := toReal_modeFactor_mem hp c

/-- The combination of the parts, before it is limited to one. -/
noncomputable def combined (p : ScoringPolicy (Rounded r)) (s : Score (Rounded r)) : Rounded r :=
  (p.memoryWeight * s.memory + p.utilizationWeight * s.compute) * s.penalty * s.modeFactor

theorem value_of (p : ScoringPolicy (Rounded r)) (c : Candidate (Rounded r)) :
    (of p c).value = clamp (combined p (of p c)) (ofNat 0) (ofNat 1) := rfl

theorem combined_mono (hp : p.Weighs) (hs' : s'.InRange) (hs : s.InRange) (h : LessApt s' s) :
    (combined p s').toReal ≤ (combined p s).toReal := by
  have hmemory : (p.memoryWeight * s'.memory).toReal ≤ (p.memoryWeight * s.memory).toReal :=
    Rounded.toReal_mul_le_mul le_rfl h.memory hs'.memory.1 hp.memoryWeight_nonneg
  have hcompute : (p.utilizationWeight * s'.compute).toReal ≤ (p.utilizationWeight * s.compute).toReal :=
    Rounded.toReal_mul_le_mul le_rfl h.compute hs'.compute.1 hp.utilizationWeight_nonneg
  have hweighted : 0 ≤ (p.memoryWeight * s.memory + p.utilizationWeight * s.compute).toReal := by
    apply Rounded.toReal_add_nonneg
    · exact Rounded.toReal_mul_nonneg hp.memoryWeight_nonneg hs.memory.1
    · exact Rounded.toReal_mul_nonneg hp.utilizationWeight_nonneg hs.compute.1
  rw [combined, combined]
  apply Rounded.toReal_mul_le_mul _ h.modeFactor hs'.modeFactor.1
  · exact Rounded.toReal_mul_nonneg hweighted hs.penalty.1
  · apply Rounded.toReal_mul_le_mul _ h.penalty hs'.penalty.1 hweighted
    exact Rounded.toReal_add_le_add hmemory hcompute

theorem toReal_value_eq_zero (h : (of p c).penalty.toReal = 0) : (of p c).value.toReal = 0 := by
  have hzero : (combined p (of p c)).toReal = 0 := by simp [combined, h]
  rw [value_of, Rounded.toReal_clamp (by simp), hzero]
  simp

end Scores

/-! ## Worse states -/

section Worse

variable {p : ScoringPolicy (Rounded r)} {c c' : Candidate (Rounded r)}

/-- The same device with no less in use, no less to do, no lower a temperature and no more precision. -/
structure Worsens (c c' : Candidate (Rounded r)) : Prop where
  device : c'.device = c.device
  used : c.sample.used ≤ c'.sample.used
  utilization : c.sample.utilization.toReal ≤ c'.sample.utilization.toReal
  temperature : c.sample.temperature.toReal ≤ c'.sample.temperature.toReal
  reduced : c.reduced = true → c'.reduced = true

theorem Worsens.modeFactor_le (hp : p.Weighs) (h : Worsens c c') :
    (of p c').modeFactor.toReal ≤ (of p c).modeFactor.toReal := by
  cases hreduced : c.reduced with
  | true =>
    rw [of, of, hreduced, h.reduced hreduced]
  | false =>
    have hone : (of p c).modeFactor.toReal = 1 := by simp [of, hreduced]
    rw [hone]
    exact (toReal_modeFactor_mem hp c').2

theorem Worsens.lessApt (hp : p.Weighs) (hdevice : c.device.fault? = none) (h : Worsens c c') :
    LessApt (of p c') (of p c) := by
  have hcapacity : c'.device.capacity c'.sample = c.device.capacity c.sample := by
    rw [h.device, Device.capacity_of_fault?_eq_none hdevice, Device.capacity_of_fault?_eq_none hdevice]
  have hfree : (of p c').free ≤ (of p c).free := by
    rw [of, of]
    dsimp only
    rw [hcapacity]
    exact Nat.sub_le_sub_left (Int.toNat_le_toNat h.used) _
  constructor
  case free => exact hfree
  case memory =>
    change (memoryPart (of p c').free (c'.device.capacity c'.sample) : Rounded r).toReal ≤ _
    rw [hcapacity]
    exact toReal_memoryPart_mono hfree
  case compute => exact toReal_computePart_anti h.utilization
  case penalty => exact toReal_thermalPenalty_anti hp h.temperature
  case modeFactor => exact h.modeFactor_le hp

/-- With an accepted policy, a registered device in a worse state has no higher score and no more free memory;
scores and their parts are between zero and one, and there is no score from the critical temperature on. -/
theorem worse_scores_no_higher (hpolicy : p.fault? = none) (hdevice : c.device.fault? = none)
    (h : Worsens c c') :
    (of p c').value.toReal ≤ (of p c).value.toReal ∧ (of p c').free ≤ (of p c).free ∧
      (of p c).InRange ∧ (of p c').InRange ∧
      (p.critical.toReal ≤ c.sample.temperature.toReal → (of p c).value.toReal = 0) ∧
      (p.critical.toReal ≤ c'.sample.temperature.toReal → (of p c').value.toReal = 0) := by
  have hp := (ScoringPolicy.fault?_eq_none_iff.mp hpolicy).1
  have happt := h.lessApt hp hdevice
  have hs := inRange_of hp c
  have hs' := inRange_of hp c'
  refine ⟨?_, happt.free, hs, hs', ?_, ?_⟩
  · rw [value_of, value_of]
    exact toReal_clamp_mono (combined_mono hp hs' hs happt)
  · exact fun hhot => toReal_value_eq_zero (thermalPenalty_eq_zero hp hhot)
  · exact fun hhot => toReal_value_eq_zero (thermalPenalty_eq_zero hp hhot)

/-- Weights whose sum is a little more than one. -/
noncomputable def heavyPolicy : ScoringPolicy (Rounded .exact) where
  memoryWeight := Rounding.exact.apply 0.6000005
  utilizationWeight := Rounding.exact.apply 0.4
  highWater := Rounding.exact.apply 80
  critical := Rounding.exact.apply 100
  reducedFactor := Rounding.exact.apply 0.5

theorem fault?_heavyPolicy : heavyPolicy.fault? = none := by
  rw [ScoringPolicy.fault?_eq_none_iff]
  constructor
  · constructor <;> norm_num [heavyPolicy]
  · have hsum : (heavyPolicy.memoryWeight + heavyPolicy.utilizationWeight).toReal = 1.0000005 := by
      norm_num [heavyPolicy]
    have hless : ¬less (heavyPolicy.memoryWeight + heavyPolicy.utilizationWeight) (ofNat 1) = true := by
      rw [Rounded.less_iff, hsum]
      norm_num
    rw [ScoringPolicy.distance, if_neg hless, ScoringPolicy.weightTolerance, ratio, Rounded.toReal_sub, hsum]
    norm_num

/-- A device at work, with sixteen bytes of memory. -/
noncomputable def working (used : Int) (utilization temperature : ℝ) (reduced : Bool) :
    Candidate (Rounded .exact) where
  device := ⟨"gpu", "A", .nvidia, "ada", 16, 4, [.fp32], .desktop, 900, none⟩
  sample := ⟨"gpu", .epoch, used, 16, Rounding.exact.apply utilization, Rounding.exact.apply 200,
    Rounding.exact.apply temperature, 1500⟩
  reduced := reduced

theorem worse_scores_no_higher_when_overheated :
    heavyPolicy.fault? = none ∧ (working 0 0 90 false).device.fault? = none ∧
      Worsens (working 0 0 90 false) (working 8 50 100 true) ∧
      (of heavyPolicy (working 8 50 100 true)).value.toReal ≤
        (of heavyPolicy (working 0 0 90 false)).value.toReal ∧
      (of heavyPolicy (working 8 50 100 true)).free ≤ (of heavyPolicy (working 0 0 90 false)).free ∧
      (of heavyPolicy (working 0 0 90 false)).InRange ∧ (of heavyPolicy (working 8 50 100 true)).InRange ∧
      (of heavyPolicy (working 8 50 100 true)).value.toReal = 0 := by
  have hdevice : (working 0 0 90 false).device.fault? = none := by rfl
  have hworsens : Worsens (working 0 0 90 false) (working 8 50 100 true) := by
    constructor <;> norm_num [working]
  have hcritical : heavyPolicy.critical.toReal ≤ (working 8 50 100 true).sample.temperature.toReal := by
    norm_num [heavyPolicy, working]
  obtain ⟨hvalue, hfree, hrange, hrange', -, hoverheated⟩ :=
    worse_scores_no_higher fault?_heavyPolicy hdevice hworsens
  exact ⟨fault?_heavyPolicy, hdevice, hworsens, hvalue, hfree, hrange, hrange', hoverheated hcritical⟩

end Worse

end Score

end GpuCluster
