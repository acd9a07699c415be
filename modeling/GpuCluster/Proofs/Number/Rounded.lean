import Mathlib
import GpuCluster.Scalar

/-!
# Rounded real numbers

The formulas of the library can be read over the reals, with a rounding after every operation. Nothing is
asked of the rounding but that it keeps the order, zero, one, and what it has rounded already. The one
that keeps everything gives exact arithmetic. There are no infinite or undefined numbers here: a quotient
by zero is zero, and only zero must not be divided by.
-/

namespace GpuCluster.Number

open Scalar

structure Rounding where
  round : ℝ → ℝ
  monotone : Monotone round
  round_round : ∀ x, round (round x) = round x
  round_zero : round 0 = 0
  round_one : round 1 = 1

attribute [simp] Rounding.round_zero Rounding.round_one

/-- A number that the rounding keeps. -/
structure Rounded (r : Rounding) where
  toReal : ℝ
  round_toReal : r.round toReal = toReal

namespace Rounding

/-- Keeps every number. -/
def exact : Rounding where
  round x := x
  monotone := monotone_id
  round_round _ := rfl
  round_zero := rfl
  round_one := rfl

@[simp] theorem round_exact (x : ℝ) : exact.round x = x := rfl

variable (r : Rounding) {x : ℝ}

def apply (x : ℝ) : Rounded r := ⟨r.round x, r.round_round x⟩

@[simp] theorem toReal_apply (x : ℝ) : (r.apply x).toReal = r.round x := rfl

theorem round_nonneg (h : 0 ≤ x) : 0 ≤ r.round x := by
  rw [← r.round_zero]
  exact r.monotone h

theorem round_le_one (h : x ≤ 1) : r.round x ≤ 1 := by
  rw [← r.round_one]
  exact r.monotone h

end Rounding

namespace Rounded

variable {r : Rounding}

noncomputable instance scalarRounded : Scalar (Rounded r) where
  add x y := r.apply (x.toReal + y.toReal)
  sub x y := r.apply (x.toReal - y.toReal)
  mul x y := r.apply (x.toReal * y.toReal)
  div x y := r.apply (x.toReal / y.toReal)
  neg x := r.apply (-x.toReal)
  ofNat n := r.apply n
  less x y := decide (x.toReal < y.toReal)
  atMost x y := decide (x.toReal ≤ y.toReal)
  isFinite _ := true
  larger x y := if x.toReal < y.toReal then y else x
  smaller x y := if y.toReal < x.toReal then y else x
  floor x := min ⌊x.toReal⌋₊ (Nat.pow 2 64 - 1)
  exp x := r.apply (Real.exp x.toReal)
  log x := r.apply (Real.log x.toReal)
  isNegligible x := decide (x.toReal = 0)

variable (x y low high : Rounded r) (n : Nat)

@[simp] theorem toReal_add : (x + y).toReal = r.round (x.toReal + y.toReal) := rfl

@[simp] theorem toReal_sub : (x - y).toReal = r.round (x.toReal - y.toReal) := rfl

@[simp] theorem toReal_mul : (x * y).toReal = r.round (x.toReal * y.toReal) := rfl

@[simp] theorem toReal_div : (x / y).toReal = r.round (x.toReal / y.toReal) := rfl

@[simp] theorem toReal_neg : (-x).toReal = r.round (-x.toReal) := rfl

@[simp] theorem toReal_exp : (exp x).toReal = r.round (Real.exp x.toReal) := rfl

@[simp] theorem toReal_log : (log x).toReal = r.round (Real.log x.toReal) := rfl

@[simp] theorem toReal_larger : (larger x y).toReal = max x.toReal y.toReal := by
  rw [max_def_lt]
  exact apply_ite toReal _ _ _

@[simp] theorem toReal_smaller : (smaller x y).toReal = min x.toReal y.toReal := by
  rw [min_comm, min_def_lt]
  exact apply_ite toReal _ _ _

@[simp] theorem toReal_ofNat : (ofNat n : Rounded r).toReal = r.round n := rfl

theorem toReal_zero : (ofNat 0 : Rounded r).toReal = 0 := by simp

theorem toReal_one : (ofNat 1 : Rounded r).toReal = 1 := by simp

@[simp] theorem less_iff : less x y = true ↔ x.toReal < y.toReal := decide_eq_true_iff

@[simp] theorem atMost_iff : atMost x y = true ↔ x.toReal ≤ y.toReal := decide_eq_true_iff

@[simp] theorem isFinite_eq_true : isFinite x = true := rfl

@[simp] theorem isNegligible_iff : isNegligible x = true ↔ x.toReal = 0 := decide_eq_true_iff

variable {x y low high} {x' y' : Rounded r}

@[ext] theorem ext (h : x.toReal = y.toReal) : x = y := by
  cases x
  cases y
  congr

theorem toReal_add_nonneg (hx : 0 ≤ x.toReal) (hy : 0 ≤ y.toReal) : 0 ≤ (x + y).toReal :=
  r.round_nonneg (add_nonneg hx hy)

theorem toReal_mul_nonneg (hx : 0 ≤ x.toReal) (hy : 0 ≤ y.toReal) : 0 ≤ (x * y).toReal :=
  r.round_nonneg (mul_nonneg hx hy)

theorem toReal_add_le_add (hx : x'.toReal ≤ x.toReal) (hy : y'.toReal ≤ y.toReal) :
    (x' + y').toReal ≤ (x + y).toReal :=
  r.monotone (add_le_add hx hy)

theorem toReal_mul_le_mul (hx : x'.toReal ≤ x.toReal) (hy : y'.toReal ≤ y.toReal) (hy' : 0 ≤ y'.toReal)
    (hx' : 0 ≤ x.toReal) : (x' * y').toReal ≤ (x * y).toReal :=
  r.monotone (mul_le_mul hx hy hy' hx')

theorem toReal_clamp (h : low.toReal ≤ high.toReal) :
    (clamp x low high).toReal = max low.toReal (min high.toReal x.toReal) := by
  simp only [clamp, less_iff]
  split
  · rename_i hlow
    rw [max_eq_left ((min_le_right _ _).trans hlow.le)]
  · rename_i hlow
    split
    · rename_i hhigh
      rw [min_eq_left hhigh.le, max_eq_right h]
    · rename_i hhigh
      rw [min_eq_right (not_lt.mp hhigh), max_eq_right (not_lt.mp hlow)]

end Rounded

end GpuCluster.Number
