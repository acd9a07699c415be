import Mathlib
import GpuCluster.Proofs.Number.Rounded
import GpuCluster.Thermal.Model

/-!
# Trajectories and their inverses

At constant power what is left of the distance to the steady state falls from one and never reaches zero,
so that a temperature is reached exactly when it lies between the start and the steady state, or is the
start itself. The time until then, and the power that leads to a temperature at a given time, are read off
the same equation. All numbers are exact here, and only zero is negligible.
-/

namespace GpuCluster.Thermal.Model

open Number (Rounded Rounding)
open Scalar

variable {m : Model (Rounded .exact)} {current power target seconds : Rounded .exact}

/-! ## What is left of a difference -/

section Decay

theorem toReal_decay (h : 0 ≤ seconds.toReal) :
    (m.decay seconds).toReal = Real.exp (-seconds.toReal / m.calibration.timeConstant.toReal) := by
  simp [decay, max_eq_left h]

theorem decay_pos (h : 0 ≤ seconds.toReal) : 0 < (m.decay seconds).toReal := by
  rw [toReal_decay h]
  exact Real.exp_pos _

variable (hconstant : 0 < m.calibration.timeConstant.toReal)

include hconstant

theorem decay_lt_one (h : 0 < seconds.toReal) : (m.decay seconds).toReal < 1 := by
  rw [toReal_decay h.le, Real.exp_lt_one_iff]
  exact div_neg_of_neg_of_pos (neg_neg_of_pos h) hconstant

/-- After `-timeConstant · log ratio` seconds the ratio is left. -/
theorem decay_eq_of_log {ratio : ℝ} (hpos : 0 < ratio) (hle : ratio ≤ 1)
    (h : seconds.toReal = -m.calibration.timeConstant.toReal * Real.log ratio) :
    0 ≤ seconds.toReal ∧ (m.decay seconds).toReal = ratio := by
  have hnonneg : 0 ≤ seconds.toReal := by
    rw [h, neg_mul, ← mul_neg]
    exact mul_nonneg hconstant.le (neg_nonneg.mpr (Real.log_nonpos hpos.le hle))
  refine ⟨hnonneg, ?_⟩
  rw [toReal_decay hnonneg, h, neg_mul, neg_neg, mul_div_cancel_left₀ _ hconstant.ne',
    Real.exp_log hpos]

end Decay

/-! ## Predictions -/

theorem toReal_steadyState (m : Model (Rounded .exact)) (power : Rounded .exact) :
    (m.steadyState power).toReal =
      m.ambient.toReal + max power.toReal 0 * m.calibration.resistance.toReal := by
  simp [steadyState]

theorem toReal_predict (m : Model (Rounded .exact)) (current power seconds : Rounded .exact) :
    (m.predict current power seconds).toReal = (m.steadyState power).toReal +
      (current.toReal - (m.steadyState power).toReal) * (m.decay seconds).toReal := by
  simp [predict]

/-- A prediction is a mean of the start and the steady state. -/
theorem toReal_predict_eq_mean (m : Model (Rounded .exact)) (current power seconds : Rounded .exact) :
    (m.predict current power seconds).toReal =
      (m.steadyState power).toReal * (1 - (m.decay seconds).toReal) +
        current.toReal * (m.decay seconds).toReal := by
  rw [toReal_predict]
  ring

/-- The part of the difference to the steady state that is left at the target. -/
noncomputable def ratioAt (m : Model (Rounded .exact)) (current power target : Rounded .exact) :
    Rounded .exact :=
  (target - m.steadyState power) / (current - m.steadyState power)

theorem toReal_ratioAt (m : Model (Rounded .exact)) (current power target : Rounded .exact) :
    (m.ratioAt current power target).toReal =
      (target.toReal - (m.steadyState power).toReal) /
        (current.toReal - (m.steadyState power).toReal) := by
  simp [ratioAt]

theorem predict_eq_iff (hgap : current ≠ m.steadyState power) :
    m.predict current power seconds = target ↔
      (m.decay seconds).toReal = (m.ratioAt current power target).toReal := by
  have hgap' : current.toReal - (m.steadyState power).toReal ≠ 0 := fun h =>
    hgap (Rounded.ext (sub_eq_zero.mp h))
  rw [Rounded.ext_iff, toReal_predict, toReal_ratioAt, eq_div_iff hgap']
  constructor <;> intro h <;> linarith

/-- At the steady state the temperature stays. -/
theorem predict_of_steady (h : current = m.steadyState power) (seconds : Rounded .exact) :
    m.predict current power seconds = current := by
  rw [Rounded.ext_iff, toReal_predict, ← h]
  ring

theorem predict_zero (m : Model (Rounded .exact)) (current power : Rounded .exact) :
    m.predict current power (ofNat 0) = current := by
  rw [Rounded.ext_iff, toReal_predict, toReal_decay Rounded.toReal_zero.ge]
  simp

/-! ## The time until a temperature -/

section Time

theorem timeToReach?_of_reached (h : current = target) :
    m.timeToReach? current power target = some (ofNat 0) := by
  have hnear : isNegligible (current - target) = true := by simp [h]
  rw [timeToReach?, if_pos hnear]

theorem timeToReach?_of_steady (hne : current ≠ target) (h : current = m.steadyState power) :
    m.timeToReach? current power target = none := by
  have hfar : ¬isNegligible (current - target) = true := by
    simpa [sub_eq_zero, ← Rounded.ext_iff] using hne
  have hnear : isNegligible (current - m.steadyState power) = true := by simp [← h]
  rw [timeToReach?, if_neg hfar]
  exact if_pos hnear

theorem timeToReach?_of_gap (hne : current ≠ target) (hgap : current ≠ m.steadyState power) :
    m.timeToReach? current power target =
      if (m.ratioAt current power target).toReal ≤ 0 ∨ 1 ≤ (m.ratioAt current power target).toReal
      then none
      else some (-m.calibration.timeConstant * log (m.ratioAt current power target)) := by
  have hfar : ¬isNegligible (current - target) = true := by
    simpa [sub_eq_zero, ← Rounded.ext_iff] using hne
  have hfar' : ¬isNegligible (current - m.steadyState power) = true := by
    simpa [sub_eq_zero, ← Rounded.ext_iff] using hgap
  rw [timeToReach?, if_neg hfar]
  dsimp only
  rw [if_neg hfar', ← ratioAt]
  simp only [Bool.or_eq_true, Rounded.atMost_iff, Rounded.toReal_zero, Rounded.toReal_one]

variable (hconstant : 0 < m.calibration.timeConstant.toReal)

include hconstant

/-- Only what lies strictly between the start and the steady state is ahead. -/
theorem ratioAt_mem_of_predict_eq (hne : current ≠ target) (hgap : current ≠ m.steadyState power)
    (hseconds : 0 ≤ seconds.toReal) (h : m.predict current power seconds = target) :
    (m.ratioAt current power target).toReal ∈ Set.Ioo 0 1 := by
  have hratio := (predict_eq_iff hgap).mp h
  rcases hseconds.eq_or_lt with hzero | hpos
  · have hstart : seconds = ofNat 0 := Rounded.ext (hzero.symm.trans Rounded.toReal_zero.symm)
    rw [hstart, predict_zero] at h
    exact absurd h hne
  · rw [← hratio]
    exact ⟨decay_pos hseconds, decay_lt_one hconstant hpos⟩

theorem predict_of_timeToReach?_eq_some (h : m.timeToReach? current power target = some seconds) :
    0 ≤ seconds.toReal ∧ m.predict current power seconds = target := by
  by_cases hreached : current = target
  · rw [timeToReach?_of_reached hreached, Option.some.injEq] at h
    rw [← h, predict_zero]
    exact ⟨Rounded.toReal_zero.ge, hreached⟩
  by_cases hsteady : current = m.steadyState power
  · rw [timeToReach?_of_steady hreached hsteady] at h
    cases h
  rw [timeToReach?_of_gap hreached hsteady, Option.ite_none_left_eq_some, not_or, not_le, not_le,
    Option.some.injEq] at h
  obtain ⟨⟨hpos, hlt⟩, rfl⟩ := h
  rw [predict_eq_iff hsteady]
  exact decay_eq_of_log hconstant hpos hlt.le (by simp)

theorem predict_ne_of_timeToReach?_eq_none (h : m.timeToReach? current power target = none)
    (hseconds : 0 ≤ seconds.toReal) : m.predict current power seconds ≠ target := by
  intro hpredict
  have hreached : current ≠ target := by
    intro hreached
    rw [timeToReach?_of_reached hreached] at h
    cases h
  by_cases hsteady : current = m.steadyState power
  · exact hreached ((predict_of_steady hsteady seconds).symm.trans hpredict)
  · obtain ⟨hpos, hlt⟩ := ratioAt_mem_of_predict_eq hconstant hreached hsteady hseconds hpredict
    rw [timeToReach?_of_gap hreached hsteady, if_neg (not_or.mpr ⟨hpos.not_ge, hlt.not_ge⟩)] at h
    cases h

end Time

/-! ## The power for a temperature -/

section Power

variable {horizon : Rounded .exact}

/-- The steady state on whose trajectory the target lies after the horizon. -/
noncomputable def steadyFor (m : Model (Rounded .exact)) (current target horizon : Rounded .exact) : ℝ :=
  (target.toReal - current.toReal * (m.decay horizon).toReal) / (1 - (m.decay horizon).toReal)

theorem toReal_powerFor (m : Model (Rounded .exact)) (current target : Rounded .exact)
    (h : 0 < horizon.toReal) :
    (m.powerFor current target horizon).toReal =
      max ((m.steadyFor current target horizon - m.ambient.toReal) /
        m.calibration.resistance.toReal) 0 := by
  have hahead : ¬atMost horizon (ofNat 0) = true := by simpa using h
  rw [powerFor, if_neg hahead]
  simp [steadyFor]

theorem steadyFor_mean (hconstant : 0 < m.calibration.timeConstant.toReal) (h : 0 < horizon.toReal)
    (current target : Rounded .exact) :
    m.steadyFor current target horizon * (1 - (m.decay horizon).toReal) +
      current.toReal * (m.decay horizon).toReal = target.toReal := by
  have hleft : 1 - (m.decay horizon).toReal ≠ 0 := (sub_pos.mpr (decay_lt_one hconstant h)).ne'
  rw [steadyFor, div_mul_cancel₀ _ hleft, sub_add_cancel]

theorem powerFor_spec (hresistance : 0 < m.calibration.resistance.toReal)
    (hconstant : 0 < m.calibration.timeConstant.toReal) (h : 0 < horizon.toReal) :
    0 ≤ (m.powerFor current target horizon).toReal ∧
      (m.predict current (m.powerFor current target horizon) horizon = target ∨
        m.powerFor current target horizon = ofNat 0 ∧
          target.toReal < (m.predict current (ofNat 0) horizon).toReal) := by
  have hpower := toReal_powerFor m current target h
  have hmean := steadyFor_mean hconstant h current target
  refine ⟨hpower ▸ le_max_right _ _, ?_⟩
  -- A steady state below the ambient temperature would take a power below zero.
  rcases le_or_gt m.ambient.toReal (m.steadyFor current target horizon) with hle | hlt
  · left
    rw [max_eq_left (div_nonneg (sub_nonneg.mpr hle) hresistance.le)] at hpower
    have hsteady : (m.steadyState (m.powerFor current target horizon)).toReal =
        m.steadyFor current target horizon := by
      rw [toReal_steadyState, hpower,
        max_eq_left (div_nonneg (sub_nonneg.mpr hle) hresistance.le),
        div_mul_cancel₀ _ hresistance.ne', add_sub_cancel]
    rw [Rounded.ext_iff, toReal_predict_eq_mean, hsteady, hmean]
  · right
    rw [max_eq_right (div_nonpos_of_nonpos_of_nonneg (sub_nonpos.mpr hlt.le) hresistance.le)]
      at hpower
    have hidle : (m.steadyState (ofNat 0)).toReal = m.ambient.toReal := by
      rw [toReal_steadyState, Rounded.toReal_zero, max_self, zero_mul, add_zero]
    refine ⟨Rounded.ext (hpower.trans Rounded.toReal_zero.symm), ?_⟩
    rw [toReal_predict_eq_mean, hidle, ← hmean]
    gcongr
    exact sub_pos.mpr (decay_lt_one hconstant h)

end Power

/--
With a resistance and a time constant above zero, the time until a temperature is one at which it is
predicted, and without such a time it is predicted for no time to come; the power for a temperature leads
to it after any time ahead, or is none because even an idle device is predicted to be hotter.
-/
theorem time_and_power_invert_prediction (hresistance : 0 < m.calibration.resistance.toReal)
    (hconstant : 0 < m.calibration.timeConstant.toReal) (current power target : Rounded .exact) :
    (∀ seconds, m.timeToReach? current power target = some seconds →
      0 ≤ seconds.toReal ∧ m.predict current power seconds = target) ∧
    (m.timeToReach? current power target = none →
      ∀ seconds : Rounded .exact, 0 ≤ seconds.toReal → m.predict current power seconds ≠ target) ∧
    ∀ horizon : Rounded .exact, 0 < horizon.toReal →
      0 ≤ (m.powerFor current target horizon).toReal ∧
        (m.predict current (m.powerFor current target horizon) horizon = target ∨
          m.powerFor current target horizon = ofNat 0 ∧
            target.toReal < (m.predict current (ofNat 0) horizon).toReal) := by
  refine ⟨?_, ?_, ?_⟩
  · exact fun _ => predict_of_timeToReach?_eq_some hconstant
  · exact fun h _ => predict_ne_of_timeToReach?_eq_none hconstant h
  · exact fun _ => powerFor_spec hresistance hconstant

/-- A device that 600 watts lead to 85 degrees. -/
noncomputable def heating : Model (Rounded .exact) :=
  ⟨⟨Rounding.exact.apply 0.1, Rounding.exact.apply 30⟩, Rounding.exact.apply 25⟩

theorem toReal_steadyState_heating :
    (heating.steadyState (Rounding.exact.apply 600)).toReal = 85 := by
  rw [toReal_steadyState]
  norm_num [heating]

theorem timeToReach?_heating {start degrees : ℝ} (hne : start ≠ degrees) (hgap : start ≠ 85) :
    heating.timeToReach? (Rounding.exact.apply start) (Rounding.exact.apply 600)
        (Rounding.exact.apply degrees) =
      if (degrees - 85) / (start - 85) ≤ 0 ∨ 1 ≤ (degrees - 85) / (start - 85) then none
      else some (-heating.calibration.timeConstant * log (heating.ratioAt (Rounding.exact.apply start)
        (Rounding.exact.apply 600) (Rounding.exact.apply degrees))) := by
  have hne' : Rounding.exact.apply start ≠ Rounding.exact.apply degrees := by
    simpa [Rounded.ext_iff] using hne
  have hgap' : Rounding.exact.apply start ≠ heating.steadyState (Rounding.exact.apply 600) := by
    simpa [Rounded.ext_iff, toReal_steadyState_heating] using hgap
  rw [timeToReach?_of_gap hne' hgap', toReal_ratioAt, toReal_steadyState_heating,
    Rounding.toReal_apply, Rounding.toReal_apply, Rounding.round_exact, Rounding.round_exact]

theorem time_and_power_invert_prediction_of_heating :
    let degrees := Rounding.exact.apply
    let horizon := Rounding.exact.apply 60
    0 < heating.calibration.resistance.toReal ∧ 0 < heating.calibration.timeConstant.toReal ∧
      (∃ seconds, heating.timeToReach? (degrees 50) (degrees 600) (degrees 80) = some seconds ∧
        heating.predict (degrees 50) (degrees 600) seconds = degrees 80) ∧
      (∀ seconds : Rounded .exact, 0 ≤ seconds.toReal →
        heating.predict (degrees 50) (degrees 600) seconds ≠ degrees 90) ∧
      0 < horizon.toReal ∧ 0 ≤ (heating.powerFor (degrees 50) (degrees 80) horizon).toReal := by
  intro degrees horizon
  have hresistance : 0 < heating.calibration.resistance.toReal := by norm_num [heating]
  have hconstant : 0 < heating.calibration.timeConstant.toReal := by norm_num [heating]
  have hhorizon : 0 < horizon.toReal := by norm_num [horizon]
  obtain ⟨hinverts, -, hpower⟩ :=
    time_and_power_invert_prediction hresistance hconstant (degrees 50) (degrees 600) (degrees 80)
  obtain ⟨-, hnever, -⟩ :=
    time_and_power_invert_prediction hresistance hconstant (degrees 50) (degrees 600) (degrees 90)
  refine ⟨hresistance, hconstant, ?_, ?_, hhorizon, (hpower horizon hhorizon).1⟩
  · have hreach : heating.timeToReach? (degrees 50) (degrees 600) (degrees 80) = some _ :=
      (timeToReach?_heating (by norm_num) (by norm_num)).trans (if_neg (by norm_num))
    exact ⟨_, hreach, (hinverts _ hreach).2⟩
  · apply hnever
    rw [timeToReach?_heating (by norm_num) (by norm_num), if_pos (by norm_num)]

end GpuCluster.Thermal.Model
