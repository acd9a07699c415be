import Mathlib

/-!
# The order of doubles

Every double but the undefined ones has a position in a linear order, given by its sign, its exponent
and its significand. A comparison of two doubles compares their positions, and fails when one of them
has none. Both zeros have the same position.
-/

namespace GpuCluster.Number

open Float.Model

abbrev Position := Int ×ₗ Int ×ₗ Int

/-- The position of a double that is taken apart. -/
def positionOf : UnpackedFloat → Option Position
  | .notANumber => none
  | .infinity .negative => some (toLex (-2, toLex (0, 0)))
  | .finite .negative significand exponent _ =>
    some (toLex (-1, toLex (-exponent, -significand)))
  | .zero _ => some (toLex (0, toLex (0, 0)))
  | .finite .positive significand exponent _ => some (toLex (1, toLex (exponent, significand)))
  | .infinity .positive => some (toLex (2, toLex (0, 0)))

def position? (x : Float) : Option Position := positionOf x.toModel.unpack

theorem compare_toLex {α β : Type} [LinearOrder α] [LinearOrder β] (a a' : α) (b b' : β) :
    compare (toLex (a, b)) (toLex (a', b')) = (compare a a').then (compare b b') := by
  rw [Prod.Lex.compare_def]
  rfl

theorem compare_neg (a b : Int) : compare (-a) (-b) = (compare a b).swap := by
  rw [← Std.OrientedCmp.eq_swap]
  rcases Int.lt_trichotomy b a with h | h | h
  · rw [compare_lt_iff_lt.mpr h, compare_lt_iff_lt.mpr (neg_lt_neg h)]
  · rw [h, compare_eq_iff_eq.mpr rfl, compare_eq_iff_eq.mpr rfl]
  · rw [compare_gt_iff_gt.mpr h, compare_gt_iff_gt.mpr (neg_lt_neg h)]

theorem compare_natCast (m n : Nat) : compare (m : Int) (n : Int) = compare m n := by
  rcases Nat.lt_trichotomy m n with h | h | h
  · rw [compare_lt_iff_lt.mpr h, compare_lt_iff_lt.mpr (Int.ofNat_lt.mpr h)]
  · simp [h]
  · rw [compare_gt_iff_gt.mpr h, compare_gt_iff_gt.mpr (Int.ofNat_lt.mpr h)]

theorem compare_eq_map₂ (a b : UnpackedFloat) :
    a.compare b = Option.map₂ compare (positionOf a) (positionOf b) := by
  -- Only two finite doubles of the same sign are not told apart by the first coordinate.
  cases a with
  | notANumber => cases b <;> rfl
  | infinity s => cases s <;> rcases b with (_ | _) | _ | (_ | _) | (_ | _) <;> rfl
  | zero s => cases s <;> rcases b with (_ | _) | _ | (_ | _) | (_ | _) <;> rfl
  | finite s m e hm =>
    cases s with
    | negative =>
      rcases b with (_ | _) | _ | (_ | _) | ⟨_ | _, m', e', hm'⟩
      case finite.negative =>
        simp [UnpackedFloat.compare, positionOf, compare_toLex, compare_neg, compare_natCast,
          Ordering.swap_then]
      all_goals rfl
    | positive =>
      rcases b with (_ | _) | _ | (_ | _) | ⟨_ | _, m', e', hm'⟩
      case finite.positive =>
        simp [UnpackedFloat.compare, positionOf, compare_toLex, compare_natCast]
      all_goals rfl

variable {x y z : Float}

theorem lt_iff_position : x < y ↔ ∃ p q, position? x = some p ∧ position? y = some q ∧ p < q := by
  have hlt : x < y ↔ x.toModel.unpack.compare y.toModel.unpack = some .lt :=
    decide_eq_true_iff.trans beq_iff_eq
  rw [hlt, compare_eq_map₂, Option.map₂_eq_some_iff]
  simp only [Option.mem_def, compare_lt_iff_lt, position?]

theorem le_iff_position : x ≤ y ↔ ∃ p q, position? x = some p ∧ position? y = some q ∧ p ≤ q := by
  have hle : x ≤ y ↔ (x.toModel.unpack.compare y.toModel.unpack).any (·.isLE) = true :=
    decide_eq_true_iff
  rw [hle, compare_eq_map₂]
  simp only [Option.any_eq_true, Option.map₂_eq_some_iff, Option.mem_def, position?]
  constructor
  · rintro ⟨_, ⟨p, q, hp, hq, rfl⟩, hpq⟩
    exact ⟨p, q, hp, hq, compare_le_iff_le.mp (Ordering.isLE_iff_ne_gt.mp hpq)⟩
  · rintro ⟨p, q, hp, hq, hpq⟩
    exact ⟨_, ⟨p, q, hp, hq, rfl⟩, Ordering.isLE_iff_ne_gt.mpr (compare_le_iff_le.mpr hpq)⟩

theorem isNaN_iff_position : x.isNaN = true ↔ position? x = none := by
  have hnan : x.isNaN = x.toModel.unpack.isNaN := rfl
  rw [hnan, position?]
  rcases x.toModel.unpack with (_ | _) | _ | (_ | _) | (_ | _) <;>
    simp [UnpackedFloat.isNaN, positionOf]

/-- A double that is not at or above a defined one is below it, or undefined itself. -/
theorem lt_or_isNaN_of_not_le {y' : Float} (hy : y ≤ y') (h : ¬y ≤ x) : x < y ∨ x.isNaN = true := by
  obtain ⟨q, -, hq, -, -⟩ := le_iff_position.mp hy
  cases hp : position? x with
  | none => exact Or.inr (isNaN_iff_position.mpr hp)
  | some p =>
    refine Or.inl (lt_iff_position.mpr ⟨p, q, hp, hq, lt_of_not_ge fun hqp => h ?_⟩)
    exact le_iff_position.mpr ⟨q, p, hq, hp, hqp⟩

theorem lt_of_lt_of_le (hxy : x < y) (hyz : y ≤ z) : x < z := by
  obtain ⟨p, q, hp, hq, hpq⟩ := lt_iff_position.mp hxy
  obtain ⟨q', r, hq', hr, hqr⟩ := le_iff_position.mp hyz
  obtain rfl := Option.some.inj (hq.symm.trans hq')
  exact lt_iff_position.mpr ⟨p, r, hp, hr, hpq.trans_le hqr⟩

theorem lt_of_lt_of_lt (hxy : x < y) (hyz : y < z) : x < z := by
  obtain ⟨p, q, hp, hq, hpq⟩ := lt_iff_position.mp hxy
  obtain ⟨q', r, hq', hr, hqr⟩ := lt_iff_position.mp hyz
  obtain rfl := Option.some.inj (hq.symm.trans hq')
  exact lt_iff_position.mpr ⟨p, r, hp, hr, hpq.trans hqr⟩

theorem le_of_le_of_le (hxy : x ≤ y) (hyz : y ≤ z) : x ≤ z := by
  obtain ⟨p, q, hp, hq, hpq⟩ := le_iff_position.mp hxy
  obtain ⟨q', r, hq', hr, hqr⟩ := le_iff_position.mp hyz
  obtain rfl := Option.some.inj (hq.symm.trans hq')
  exact le_iff_position.mpr ⟨p, r, hp, hr, hpq.trans hqr⟩

theorem lt_asymm (hxy : x < y) : ¬y < x := by
  intro hyx
  obtain ⟨p, q, hp, hq, hpq⟩ := lt_iff_position.mp hxy
  obtain ⟨q', p', hq', hp', hqp⟩ := lt_iff_position.mp hyx
  obtain rfl := Option.some.inj (hp.symm.trans hp')
  obtain rfl := Option.some.inj (hq.symm.trans hq')
  exact hpq.asymm hqp

end GpuCluster.Number
