import Mathlib
import GpuCluster.Proofs.Number.Order
import GpuCluster.Thermal.Mode

/-!
# One reading again and again

A device is slowed down by its forecast, and a paused one goes on by its measured temperature. A
reading that does not change settles the mode after two steps, unless it is one that pauses a running
device for its forecast and at the same time lets the paused device go on: then the mode changes at
every reading.
-/

namespace GpuCluster.Thermal

open Number

variable {t : Thresholds} {current predicted : Float} {mode : Mode}

/-- The mode after a number of equal readings. -/
def modeAfter (t : Thresholds) (current predicted : Float) (mode : Mode) (n : Nat) : Mode :=
  (fun mode => nextMode t mode current predicted)^[n] mode

theorem modeAfter_succ (n : Nat) :
    modeAfter t current predicted mode (n + 1) =
      nextMode t (modeAfter t current predicted mode n) current predicted :=
  Function.iterate_succ_apply' ..

/-- A mode that two equal readings have led to, and a third does not change, is kept for ever. -/
theorem modeAfter_eq_of_fixed
    (h : nextMode t (modeAfter t current predicted mode 2) current predicted =
      modeAfter t current predicted mode 2) {n : Nat} (hn : 2 ≤ n) :
    modeAfter t current predicted mode n = modeAfter t current predicted mode 2 := by
  obtain ⟨k, rfl⟩ := Nat.exists_eq_add_of_le' hn
  rw [modeAfter, Function.iterate_add_apply]
  exact Function.iterate_fixed h k

/-! ## Readings between which a device swings -/

/-- A reading that pauses a running device and lets a paused one go on. -/
structure Swings (t : Thresholds) (current predicted : Float) (mode : Mode) : Prop where
  reducesPrecision : t.reducesPrecision = false
  mode_ne : mode ≠ .precisionReduced
  softLimit_le : t.softLimit ≤ predicted
  lt_resumeBelow : current < t.resumeBelow

section Bands

variable (hresume : t.resumeBelow < t.softLimit) (hsoft : t.softLimit ≤ t.critical)

include hresume

theorem not_lt_resumeBelow {x : Float} (h : t.softLimit ≤ x) : ¬x < t.resumeBelow :=
  lt_asymm (lt_of_lt_of_le hresume h)

/-- A reading that a device does not swing at leads within two steps to a mode that it keeps. -/
theorem nextMode_modeAfter_two (h : ¬Swings t current predicted mode) :
    nextMode t (modeAfter t current predicted mode 2) current predicted =
      modeAfter t current predicted mode 2 := by
  change nextMode t (nextMode t (nextMode t mode current predicted) current predicted) _ _ =
    nextMode t (nextMode t mode current predicted) current predicted
  by_cases hcritical : t.critical ≤ current
  · simp only [nextMode_of_critical hcritical]
  -- What slows the device down does not let it go on: each of the two temperatures is on one side
  -- of the band between the resume threshold and the soft limit.
  have hmeasured := fun hsoft => not_lt_resumeBelow (x := current) hresume hsoft
  have hforecast := fun hsoft => not_lt_resumeBelow (x := predicted) hresume hsoft
  cases mode with
  | running =>
    by_cases hpredicted : t.softLimit ≤ predicted
    · cases hreduces : t.reducesPrecision with
      | true =>
        by_cases hcurrent : t.softLimit ≤ current
        · simp [nextMode, hcritical, hpredicted, hreduces, hcurrent, hmeasured hcurrent]
        · simp [nextMode, hcritical, hpredicted, hreduces, hcurrent, hforecast hpredicted]
      | false =>
        have hcurrent : ¬current < t.resumeBelow := fun hcurrent =>
          h ⟨hreduces, Mode.noConfusion, hpredicted, hcurrent⟩
        simp [nextMode, hcritical, hpredicted, hreduces, hcurrent]
    · simp [nextMode, hcritical, hpredicted]
  | precisionReduced =>
    by_cases hcurrent : t.softLimit ≤ current
    · simp [nextMode, hcritical, hcurrent, hmeasured hcurrent]
    · by_cases hpredicted : predicted < t.resumeBelow
      · have hsoft : ¬t.softLimit ≤ predicted := fun hsoft => hforecast hsoft hpredicted
        simp [nextMode, hcritical, hcurrent, hpredicted, hsoft]
      · simp [nextMode, hcritical, hcurrent, hpredicted]
  | paused =>
    by_cases hcurrent : current < t.resumeBelow
    · have hsoft : ¬t.softLimit ≤ current := fun hsoft => hmeasured hsoft hcurrent
      by_cases hpredicted : t.softLimit ≤ predicted
      · cases hreduces : t.reducesPrecision with
        | true =>
          simp [nextMode, hcritical, hcurrent, hpredicted, hreduces, hsoft, hforecast hpredicted]
        | false => exact absurd ⟨hreduces, Mode.noConfusion, hpredicted, hcurrent⟩ h
      · simp [nextMode, hcritical, hcurrent, hpredicted]
    · simp [nextMode, hcritical, hcurrent]

include hsoft

theorem not_critical_le (h : current < t.resumeBelow) : ¬t.critical ≤ current := fun hcritical =>
  lt_asymm (lt_of_lt_of_le (lt_of_lt_of_le hresume hsoft) hcritical) h

theorem Swings.next (h : Swings t current predicted mode) :
    nextMode t mode current predicted ≠ mode ∧
      Swings t current predicted (nextMode t mode current predicted) := by
  obtain ⟨hreduces, hmode, hpredicted, hcurrent⟩ := h
  have hcritical := not_critical_le hresume hsoft hcurrent
  cases mode with
  | running =>
    have hnext : nextMode t .running current predicted = .paused := by
      simp [nextMode, hcritical, hpredicted, hreduces]
    rw [hnext]
    exact ⟨Mode.noConfusion, hreduces, Mode.noConfusion, hpredicted, hcurrent⟩
  | precisionReduced => exact absurd rfl hmode
  | paused =>
    have hnext : nextMode t .paused current predicted = .running := by
      simp only [nextMode, if_neg hcritical, if_pos hcurrent]
    rw [hnext]
    exact ⟨Mode.noConfusion, hreduces, Mode.noConfusion, hpredicted, hcurrent⟩

theorem Swings.modeAfter (h : Swings t current predicted mode) (n : Nat) :
    Swings t current predicted (modeAfter t current predicted mode n) := by
  induction n with
  | zero => exact h
  | succ n ih =>
    rw [modeAfter_succ]
    exact (ih.next hresume hsoft).2

theorem Swings.modeAfter_succ_ne (h : Swings t current predicted mode) (n : Nat) :
    Thermal.modeAfter t current predicted mode (n + 1) ≠
      Thermal.modeAfter t current predicted mode n := by
  rw [modeAfter_succ]
  exact ((h.modeAfter hresume hsoft n).next hresume hsoft).1

end Bands

/--
When the resume threshold lies below the soft limit, and this not above the critical temperature, equal
readings change the mode at most twice and then never again, from any mode, except between readings at
which the device swings: there they change it every time.
-/
theorem steady_reading_settles_or_swings (hresume : t.resumeBelow < t.softLimit)
    (hsoft : t.softLimit ≤ t.critical) (mode : Mode) (current predicted : Float) :
    (¬Swings t current predicted mode → ∀ n, 2 ≤ n →
      modeAfter t current predicted mode n = modeAfter t current predicted mode 2) ∧
    (Swings t current predicted mode → ∀ n,
      modeAfter t current predicted mode (n + 1) ≠ modeAfter t current predicted mode n) := by
  constructor
  · intro h n hn
    exact modeAfter_eq_of_fixed (nextMode_modeAfter_two hresume h) hn
  · intro h n
    exact h.modeAfter_succ_ne hresume hsoft n

/-- A paused device that goes on at reduced precision, which its forecast asks for. -/
theorem steady_reading_settles_or_swings_of_reduction :
    let t : Thresholds := ⟨85, 80, 75, true⟩
    t.resumeBelow < t.softLimit ∧ t.softLimit ≤ t.critical ∧
      modeAfter t 70 82 .paused 1 = .running ∧
      ∀ n, 2 ≤ n → modeAfter t 70 82 .paused n = .precisionReduced := by
  intro t
  have hresume : t.resumeBelow < t.softLimit := by decide
  have hsoft : t.softLimit ≤ t.critical := by decide
  have hsettles : ¬Swings t 70 82 .paused := fun h => Bool.noConfusion h.reducesPrecision
  refine ⟨hresume, hsoft, by decide, fun n hn => ?_⟩
  rw [(steady_reading_settles_or_swings hresume hsoft .paused 70 82).1 hsettles n hn]
  decide

/-- Without reduced precision, a cool device with a hot forecast is paused at one reading and goes on at
the next, for ever. -/
theorem steady_reading_alternates :
    let t : Thresholds := ⟨85, 80, 75, false⟩
    t.resumeBelow < t.softLimit ∧ t.softLimit ≤ t.critical ∧
      ∀ n, modeAfter t 70 82 .running (n + 1) ≠ modeAfter t 70 82 .running n := by
  intro t
  have hresume : t.resumeBelow < t.softLimit := by decide
  have hsoft : t.softLimit ≤ t.critical := by decide
  have hswings : Swings t 70 82 .running := ⟨rfl, Mode.noConfusion, by decide, by decide⟩
  exact ⟨hresume, hsoft, hswings.modeAfter_succ_ne hresume hsoft⟩

end GpuCluster.Thermal
