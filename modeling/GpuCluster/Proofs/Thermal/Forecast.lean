import Mathlib
import GpuCluster.Proofs.Number.Order
import GpuCluster.Thermal.Mode

/-!
# Running under a hot forecast

A forecast at the soft limit slows a running device down, and one at reduced precision runs again only
under a forecast below the resume threshold. But a paused device goes on by its measured temperature
alone. So a device runs under a hot forecast at the reading that lets it go on, and not beyond the next
one.
-/

namespace GpuCluster.Thermal

open Number

variable {t : Thresholds} {current predicted : Float}

/-- The mode that readings lead to, each a measured temperature with its forecast. -/
def modeAlong (t : Thresholds) (readings : List (Float × Float)) : Mode :=
  readings.foldl (fun mode r => nextMode t mode r.1 r.2) .running

theorem modeAlong_concat (readings : List (Float × Float)) (r : Float × Float) :
    modeAlong t (readings ++ [r]) = nextMode t (modeAlong t readings) r.1 r.2 := by
  rw [modeAlong, List.foldl_append]
  rfl

/-- A reading that leaves a device running has a forecast that is not hot, or lets the device go on. -/
theorem cool_or_paused_of_nextMode_eq_running (hresume : t.resumeBelow < t.softLimit) {mode : Mode}
    (h : nextMode t mode current predicted = .running) :
    ¬t.softLimit ≤ predicted ∨ (mode = .paused ∧ current < t.resumeBelow) := by
  by_cases hcritical : t.critical ≤ current
  · rw [nextMode_of_critical hcritical] at h
    cases h
  cases mode with
  | running =>
    simp only [nextMode, if_neg hcritical] at h
    refine Or.inl fun hhot => ?_
    rw [if_pos hhot] at h
    split at h <;> cases h
  | precisionReduced =>
    simp only [nextMode, if_neg hcritical] at h
    split at h
    · cases h
    · split at h
      · rename_i hpredicted
        exact Or.inl fun hhot => lt_asymm (lt_of_lt_of_le hresume hhot) hpredicted
      · cases h
  | paused =>
    simp only [nextMode, if_neg hcritical] at h
    split at h
    · rename_i hcurrent
      exact Or.inr ⟨rfl, hcurrent⟩
    · cases h

/--
A device that runs after a reading has a forecast strictly below the soft limit, or one that is
undefined, or the reading has let it go on: it was paused before, and its measured temperature is
strictly below the resume threshold. It does not run after two hot forecasts in a row.
-/
theorem running_under_forecast (hresume : t.resumeBelow < t.softLimit)
    (hsoft : t.softLimit ≤ t.critical) (readings : List (Float × Float)) (r : Float × Float)
    (h : modeAlong t (readings ++ [r]) = .running) :
    (r.2 < t.softLimit ∨ r.2.isNaN = true ∨
      (modeAlong t readings = .paused ∧ r.1 < t.resumeBelow)) ∧
    ∀ r' : Float × Float, t.softLimit ≤ r'.2 → modeAlong t (readings ++ [r, r']) ≠ .running := by
  constructor
  · rw [modeAlong_concat] at h
    rcases cool_or_paused_of_nextMode_eq_running hresume h with hcool | hpaused
    · exact (lt_or_isNaN_of_not_le hsoft hcool).imp_right Or.inl
    · exact Or.inr (Or.inr hpaused)
  · intro r' hhot hrunning
    rw [List.append_cons, modeAlong_concat, h] at hrunning
    rcases cool_or_paused_of_nextMode_eq_running hresume hrunning with hcool | ⟨hpaused, -⟩
    · exact hcool hhot
    · cases hpaused

/-- A device that was paused at 90 degrees goes on at 70 degrees, and at a forecast of 79. -/
theorem running_under_forecast_of_cooling :
    let t : Thresholds := ⟨85, 80, 75, true⟩
    t.resumeBelow < t.softLimit ∧ t.softLimit ≤ t.critical ∧
      modeAlong t [(90, 95), (70, 79)] = .running ∧
      modeAlong t [(90, 95), (70, 79), (72, 81)] ≠ .running := by
  intro t
  have hresume : t.resumeBelow < t.softLimit := by decide
  have hsoft : t.softLimit ≤ t.critical := by decide
  have hrunning : modeAlong t ([(90, 95)] ++ [(70, 79)]) = .running := by decide
  obtain ⟨-, hnext⟩ := running_under_forecast hresume hsoft [(90, 95)] (70, 79) hrunning
  exact ⟨hresume, hsoft, hrunning, hnext (72, 81) (by decide)⟩

/-- A device that was paused at 90 degrees goes on at 70 degrees, though its forecast is hot. -/
theorem running_under_hot_forecast :
    let t : Thresholds := ⟨85, 80, 75, true⟩
    t.resumeBelow < t.softLimit ∧ t.softLimit ≤ t.critical ∧
      modeAlong t [(90, 95), (70, 82)] = .running ∧ ¬(82 : Float) < t.softLimit := by
  decide

end GpuCluster.Thermal
