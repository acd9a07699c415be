import Mathlib
import GpuCluster.Proofs.Number.Order
import GpuCluster.Scalar

/-!
# Extremes of doubles

The largest of several doubles depends on the order in which they are compared by no more than the sign
of a zero, and so does a difference of doubles. A comparison does not see that sign.
-/

namespace GpuCluster.Number

open Float.Model

/-! ## Differences -/

/-- The same double, up to the sign of a zero. -/
def Alike (a b : UnpackedFloat) : Prop := a = b ∨ ∃ s t, a = .zero s ∧ b = .zero t

theorem alike_of_positionOf_eq {a b : UnpackedFloat} (h : positionOf a = positionOf b) :
    Alike a b := by
  rcases a with (_ | _) | _ | _ | ⟨_ | _, m, e, hm⟩ <;>
    rcases b with (_ | _) | _ | _ | ⟨_ | _, m', e', hm'⟩ <;>
    simp_all [positionOf, Alike]

theorem alike_zero (s t : UnpackedFloat.Sign) : Alike (.zero s) (.zero t) := Or.inr ⟨s, t, rfl, rfl⟩

theorem exists_zero_sub_zero (spec : Format) (s t : UnpackedFloat.Sign) :
    ∃ u, UnpackedFloat.sub spec (.zero s) (.zero t) = .zero u := by
  rw [UnpackedFloat.sub]
  split
  · exact ⟨s, rfl⟩
  · exact ⟨.positive, rfl⟩

theorem alike_zero_sub_zero (spec : Format) (s t s' t' : UnpackedFloat.Sign) :
    Alike (UnpackedFloat.sub spec (.zero s) (.zero t))
      (UnpackedFloat.sub spec (.zero s') (.zero t')) := by
  obtain ⟨u, hu⟩ := exists_zero_sub_zero spec s t
  obtain ⟨u', hu'⟩ := exists_zero_sub_zero spec s' t'
  rw [hu, hu']
  exact alike_zero u u'

theorem Alike.sub {a a' b b' : UnpackedFloat} (ha : Alike a a') (hb : Alike b b') (spec : Format) :
    Alike (UnpackedFloat.sub spec a b) (UnpackedFloat.sub spec a' b') := by
  rcases ha with rfl | ⟨s, s', rfl, rfl⟩
  · rcases hb with rfl | ⟨t, t', rfl, rfl⟩
    · exact Or.inl rfl
    · cases a with
      | zero s => exact alike_zero_sub_zero spec s t s t'
      | _ => exact Or.inl rfl
  · rcases hb with rfl | ⟨t, t', rfl, rfl⟩
    · cases b with
      | zero t => exact alike_zero_sub_zero spec s t s' t
      | _ => exact Or.inl rfl
    · exact alike_zero_sub_zero spec s t s' t'

theorem position_sub_congr {x x' y y' : Float} (hx : position? x = position? x')
    (hy : position? y = position? y') : position? (x - y) = position? (x' - y') := by
  have hsub := (alike_of_positionOf_eq hx).sub (alike_of_positionOf_eq hy) .binary64
  have hmodel : ∀ x y : Float, position? (x - y) =
      positionOf (pack (UnpackedFloat.sub .binary64 x.toModel.unpack y.toModel.unpack)).unpack :=
    fun _ _ => rfl
  rw [hmodel, hmodel]
  rcases hsub with heq | ⟨s, t, hs, ht⟩
  · rw [heq]
  · rw [hs, ht]
    cases s <;> cases t <;> rfl

/-! ## Extremes -/

section Pick

variable {L : Type} [LinearOrder L] [OrderBot L] {f : Float → L} {pick : Float → Float → Float}

/-- Picking the greater of two doubles, of which the undefined ones are the least. -/
theorem map_pick {isLess : Float → Float → Prop} [DecidableRel isLess]
    (hnan : ∀ x, x.isNaN = true → f x = ⊥)
    (hless : ∀ x y, x.isNaN = false → (isLess x y ↔ f x < f y)) (x y : Float) :
    f (if x.isNaN then y else if isLess x y then y else x) = max (f x) (f y) := by
  split
  · rename_i hx
    rw [hnan x hx, max_eq_right bot_le]
  · rename_i hx
    have hiff := hless x y (Bool.eq_false_iff.mpr hx)
    split
    · rename_i hlt
      rw [max_eq_right (hiff.mp hlt).le]
    · rename_i hnot
      rw [max_eq_left (not_lt.mp (hiff.not.mp hnot))]

theorem map_foldl_pick (hpick : ∀ x y, f (pick x y) = max (f x) (f y)) (u : Float) (l : List Float) :
    f (l.foldl pick u) = ((u :: l).map f).foldl max ⊥ := by
  induction l generalizing u with
  | nil => simp
  | cons v l ih =>
    rw [List.foldl_cons, ih, List.map_cons, List.map_cons, List.map_cons, List.foldl_cons,
      List.foldl_cons, List.foldl_cons, hpick, max_eq_right bot_le, max_eq_right bot_le]

theorem map_foldl_pick_eq_of_perm (hpick : ∀ x y, f (pick x y) = max (f x) (f y)) {u u' : Float}
    {l l' : List Float} (h : (u :: l).Perm (u' :: l')) :
    f (l.foldl pick u) = f (l'.foldl pick u') := by
  rw [map_foldl_pick hpick, map_foldl_pick hpick]
  exact (h.map f).foldl_op_eq

end Pick

/-- The position of a double, an undefined one being below all others. -/
def fromBelow (x : Float) : WithBot Position := position? x

/-- The position of a double, counted downwards, an undefined one being above all others. -/
def fromAbove (x : Float) : (WithTop Position)ᵒᵈ := position? x

variable {x y : Float}

theorem exists_position (h : x.isNaN = false) : ∃ p, position? x = some p := by
  rw [← Option.isSome_iff_exists, Option.isSome_iff_ne_none]
  intro hnone
  rw [isNaN_iff_position.mpr hnone] at h
  cases h

theorem lt_iff_fromBelow (hx : x.isNaN = false) : x < y ↔ fromBelow x < fromBelow y := by
  obtain ⟨p, hp⟩ := exists_position hx
  rw [lt_iff_position, fromBelow, fromBelow, hp]
  cases position? y with
  | none =>
    change _ ↔ (p : WithBot Position) < ⊥
    simp
  | some q =>
    change _ ↔ (p : WithBot Position) < (q : WithBot Position)
    simp

theorem lt_iff_fromAbove (hx : x.isNaN = false) : y < x ↔ fromAbove x < fromAbove y := by
  obtain ⟨p, hp⟩ := exists_position hx
  rw [lt_iff_position, fromAbove, fromAbove, hp]
  cases position? y with
  | none =>
    change _ ↔ ⊤ < (p : WithTop Position)
    simp
  | some q =>
    change _ ↔ (q : WithTop Position) < (p : WithTop Position)
    simp

theorem le_iff_fromBelow (hx : x.isNaN = false) : x ≤ y ↔ fromBelow x ≤ fromBelow y := by
  obtain ⟨p, hp⟩ := exists_position hx
  rw [le_iff_position, fromBelow, fromBelow, hp]
  cases position? y with
  | none =>
    change _ ↔ (p : WithBot Position) ≤ ⊥
    simp
  | some q =>
    change _ ↔ (p : WithBot Position) ≤ (q : WithBot Position)
    simp

theorem fromBelow_larger (x y : Float) :
    fromBelow (Scalar.larger x y) = max (fromBelow x) (fromBelow y) :=
  map_pick (fun _ h => isNaN_iff_position.mp h) (fun _ _ => lt_iff_fromBelow) x y

theorem fromAbove_smaller (x y : Float) :
    fromAbove (Scalar.smaller x y) = max (fromAbove x) (fromAbove y) :=
  @map_pick _ _ _ fromAbove (fun x y => y < x) _ (fun _ h => isNaN_iff_position.mp h)
    (fun _ _ => lt_iff_fromAbove) x y

/-- The extremes of the same doubles, listed in another order, are alike. -/
theorem position_extremes_eq_of_perm {u u' : Float} {l l' : List Float}
    (h : (u :: l).Perm (u' :: l')) :
    position? (l.foldl Scalar.larger u) = position? (l'.foldl Scalar.larger u') ∧
      position? (l.foldl Scalar.smaller u) = position? (l'.foldl Scalar.smaller u') := by
  have hlarger := map_foldl_pick_eq_of_perm fromBelow_larger h
  have hsmaller := map_foldl_pick_eq_of_perm fromAbove_smaller h
  exact ⟨hlarger, hsmaller⟩

theorem lt_congr_right {x' : Float} (h : position? x = position? x') : y < x ↔ y < x' := by
  rw [lt_iff_position, lt_iff_position, h]

end GpuCluster.Number
