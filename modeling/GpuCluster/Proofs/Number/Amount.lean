import Mathlib
import GpuCluster.Proofs.Number.Rounding

/-!
# Arithmetic of doubles that are not negative

The operations on doubles that are finite and not negative, next to those on their exact values. An
operation overflows to infinity, or its result is off by no more than a small part of the exact one.
-/

namespace GpuCluster.Number

open Float.Model UnpackedFloat

/-! ## Numbers that are taken apart -/

section Unpacked

variable {u u' : UnpackedFloat} {v v' : ℚ}

theorem abs_sub_self_le_mul (h : 0 ≤ v) : |v - v| ≤ 2 ^ (-52 : Int) * v := by
  rw [sub_self, abs_zero]
  positivity

theorem normalize_of_pos {n : Nat} (h : 0 < n) (e : Int) (s : Sign) :
    UnpackedFloat.normalize .binary64 n e s = UnpackedFloat.round .binary64 .positive n e := by
  have hcompare : compare (n : Int) 0 = .gt := Int.compare_eq_gt.mpr (by omega)
  rw [UnpackedFloat.normalize, hcompare]
  rfl

theorem add_mul_two_zpow_min (m m' : Nat) (e e' : Int) :
    ((m * 2 ^ (e - min e e').toNat + m' * 2 ^ (e' - min e e').toNat : Nat) * 2 ^ min e e' : ℚ) =
      m * 2 ^ e + m' * 2 ^ e' := by
  have hleft := mul_two_zpow_min m e (min e e')
  have hright := mul_two_zpow_min m' e' (min e e')
  rw [min_eq_right (min_le_left e e')] at hleft
  rw [min_eq_right (min_le_right e e')] at hright
  rw [Nat.cast_add, add_mul, hleft, hright]

theorem Amounts.add (h : Amounts u v) (h' : Amounts u' v') :
    ∃ w, Amounts (UnpackedFloat.add .binary64 u u') w ∧
      |w - (v + v')| ≤ 2 ^ (-52 : Int) * (v + v') := by
  have hsum := add_nonneg h.nonneg h'.nonneg
  cases h with
  | zero s =>
    refine ⟨_, ?_, abs_sub_self_le_mul hsum⟩
    cases h' with
    | zero s' =>
      rw [add_zero, UnpackedFloat.add]
      split <;> exact .zero _
    | finite m' e' hm' hc' =>
      rw [zero_add]
      exact .finite m' e' hm' hc'
  | finite m e hm hc =>
    cases h' with
    | zero s' =>
      refine ⟨_, ?_, abs_sub_self_le_mul hsum⟩
      rw [add_zero]
      exact .finite m e hm hc
    | finite m' e' hm' hc' =>
      have hpos : 0 < m * 2 ^ (e - min e e').toNat + m' * 2 ^ (e' - min e e').toNat := by positivity
      have hle := hc.le
      have hle' := hc'.le
      rw [← add_mul_two_zpow_min, UnpackedFloat.add]
      dsimp only
      rw [decreaseExponent_eq, decreaseExponent_eq]
      change ∃ w, Amounts (UnpackedFloat.normalize _ ((_ : Nat) + (_ : Nat) : Int) _ _) w ∧ _
      rw [← Int.natCast_add, normalize_of_pos hpos]
      exact exists_near_round_of_le hpos (by omega)

theorem Amounts.infinity_add (h : Amounts u v) :
    UnpackedFloat.add .binary64 (.infinity .positive) u = .infinity .positive := by
  cases h <;> rfl

theorem IsCanonical.target_eq {m : Nat} {e : Int} (hc : IsCanonical m e) (hm : 0 < m) :
    target (m * 2 ^ 52) (e + -52) = e := by
  have hlog := log2_shiftLeft hm 52
  have hlt := (Nat.log2_lt (Nat.ne_of_gt hm)).mpr hc.lt
  have hle := hc.le
  rw [Nat.shiftLeft_eq] at hlog
  rw [target, hlog]
  rcases hc.full with hfull | rfl
  · have hge := (Nat.le_log2 (Nat.ne_of_gt hm)).mpr hfull
    omega
  · omega

theorem Amounts.mul_one (h : Amounts u v) :
    Amounts (UnpackedFloat.mul .binary64 u (.finite .positive (2 ^ 52) (-52) (Nat.two_pow_pos 52)))
      v := by
  cases h with
  | zero s => exact .zero _
  | finite m e hm hc =>
    have htarget := hc.target_eq hm
    have hvalue : ((m * 2 ^ 52 : Nat) * 2 ^ (e + -52) : ℚ) = m * 2 ^ e := by
      rw [zpow_add₀ two_ne_zero]
      push_cast
      ring
    rw [← hvalue]
    apply amounts_round_of_dvd
    · omega
    · have hshift : (target (m * 2 ^ 52) (e + -52) - (e + -52)).toNat = 52 := by omega
      rw [hshift]
      exact Nat.dvd_mul_left ..

theorem Amounts.full_of_one_le {m : Nat} {e : Int} (hc : IsCanonical m e) (h : (1 : ℚ) ≤ m * 2 ^ e) :
    2 ^ 52 ≤ m := by
  apply hc.full.resolve_right
  rintro rfl
  have hlt := lt_two_zpow_add (f := -1074) hc.lt le_rfl
  have hle : (2 : ℚ) ^ ((53 : Nat) + -1074 : Int) ≤ 2 ^ (0 : Int) :=
    zpow_le_zpow_right₀ one_le_two (by norm_num)
  rw [zpow_zero] at hle
  linarith

theorem Amounts.mul {n : Nat} (h : Amounts u v) (hn : v = n) (h' : Amounts u' v') :
    ∃ w, Amounts (UnpackedFloat.mul .binary64 u u') w ∧
      |w - v * v'| ≤ 2 ^ (-52 : Int) * (v * v') := by
  have hproduct := mul_nonneg h.nonneg h'.nonneg
  cases h with
  | zero s =>
    refine ⟨_, ?_, abs_sub_self_le_mul hproduct⟩
    rw [zero_mul]
    cases h' <;> exact .zero _
  | finite m e hm hc =>
    cases h' with
    | zero s' =>
      refine ⟨_, ?_, abs_sub_self_le_mul hproduct⟩
      rw [mul_zero]
      exact .zero _
    | finite m' e' hm' hc' =>
      have hone : (1 : ℚ) ≤ m * 2 ^ e := by
        have hpos : (0 : ℚ) < m * 2 ^ e := by positivity
        rw [hn] at hpos ⊢
        exact Nat.one_le_cast.mpr (Nat.cast_pos.mp hpos)
      have hvalue : ((m * m' : Nat) * 2 ^ (e + e') : ℚ) = m * 2 ^ e * (m' * 2 ^ e') := by
        rw [zpow_add₀ two_ne_zero, Nat.cast_mul]
        ring
      have htarget : e + e' ≤ target (m * m') (e + e') := by
        have hlog : 52 ≤ (m * m').log2 := by
          rw [Nat.le_log2 (Nat.ne_of_gt (Nat.mul_pos hm hm'))]
          exact (Amounts.full_of_one_le hc hone).trans (Nat.le_mul_of_pos_right m hm')
        rw [target]
        omega
      obtain ⟨k, hk⟩ := exists_eq_mul_finest (m := m') hc'.le
      -- A whole multiple of a number on the finest grid lies on that grid, too.
      have hgrid : ∃ k : Nat, ((m * m' : Nat) * 2 ^ (e + e') : ℚ) = k * 2 ^ (-1074 : Int) := by
        refine ⟨n * k, ?_⟩
        rw [hvalue, hn, hk, Nat.cast_mul, mul_assoc]
      rw [← hvalue]
      exact exists_near_round_of_grid htarget hgrid

theorem target_divCore {m m' : Nat} (hm : 0 < m) (hm' : 0 < m') {e e' t : Int}
    (ht : t = min (e - e') (Format.binary64.targetExponent (totalExponent m e - totalExponent m' e'))) :
    t ≤ target (m * 2 ^ (e - e' - t).toNat / m') t := by
  rw [targetExponent_binary64] at ht
  simp only [totalExponent] at ht
  rw [target]
  by_cases hmin : t ≤ -1074
  · omega
  · have hlog : 52 ≤ (m * 2 ^ (e - e' - t).toNat / m').log2 := by
      have hle : 2 ^ 52 ≤ m * 2 ^ (e - e' - t).toNat / m' := by
        rw [Nat.le_div_iff_mul_le hm']
        calc
          2 ^ 52 * m' ≤ 2 ^ 52 * 2 ^ (m'.log2 + 1) :=
            Nat.mul_le_mul_left _ Nat.lt_log2_self.le
          _ = 2 ^ (52 + (m'.log2 + 1)) := (Nat.pow_add ..).symm
          _ ≤ 2 ^ (m.log2 + (e - e' - t).toNat) := Nat.pow_le_pow_right Nat.two_pos (by omega)
          _ = 2 ^ m.log2 * 2 ^ (e - e' - t).toNat := Nat.pow_add ..
          _ ≤ m * 2 ^ (e - e' - t).toNat :=
            Nat.mul_le_mul_right _ (Nat.log2_self_le (Nat.ne_of_gt hm))
      have hpos : 0 < m * 2 ^ (e - e' - t).toNat / m' := by omega
      exact (Nat.le_log2 (Nat.ne_of_gt hpos)).mpr hle
    omega

/-- A division without remainder, beside the exact quotient. -/
theorem between_div_two_zpow (m m' : Nat) {e e' t : Int} (ht : t ≤ e - e') :
    ((m * 2 ^ (e - e' - t).toNat / m' : Nat) * 2 ^ t : ℚ) ≤ m * 2 ^ e / (m' * 2 ^ e') ∧
      (m * 2 ^ e / (m' * 2 ^ e') : ℚ) ≤
        ((m * 2 ^ (e - e' - t).toNat / m' : Nat) + 1) * 2 ^ t := by
  have hshift : e - e' = (e - e' - t).toNat + t := by omega
  have hvalue : (m * 2 ^ e / (m' * 2 ^ e') : ℚ) =
      ((m * 2 ^ (e - e' - t).toNat : Nat) / m') * 2 ^ t := by
    rw [mul_div_mul_comm, ← zpow_sub₀ two_ne_zero, Nat.cast_mul, Nat.cast_pow, Nat.cast_ofNat,
      mul_div_right_comm, mul_assoc, ← zpow_natCast, ← zpow_add₀ two_ne_zero, ← hshift]
  rw [hvalue]
  constructor
  · exact mul_le_mul_of_nonneg_right Nat.cast_div_le (by positivity)
  · refine mul_le_mul_of_nonneg_right ?_ (by positivity)
    rw [← Nat.floor_div_eq_div (K := ℚ)]
    exact (Nat.lt_floor_add_one _).le

theorem Amounts.div (h : Amounts u v) (h' : Amounts u' v') (hpos : 0 < v') :
    ∃ w, Amounts (UnpackedFloat.div .binary64 u u') w ∧
      |w - v / v'| ≤ 2 ^ (-52 : Int) * (v / v') + 2 ^ (-1074 : Int) := by
  cases h' with
  | zero s' => cases hpos.false
  | finite m' e' hm' hc' =>
    cases h with
    | zero s =>
      refine ⟨0, .zero _, ?_⟩
      rw [zero_div, sub_zero, abs_zero, mul_zero, zero_add]
      positivity
    | finite m e hm hc =>
      generalize ht : min (e - e')
        (Format.binary64.targetExponent (totalExponent m e - totalExponent m' e')) = t
      have htarget := target_divCore hm hm' ht.symm
      have hle : t ≤ e - e' := ht ▸ min_le_left _ _
      obtain ⟨hlow, hup⟩ := between_div_two_zpow m m' hle
      obtain ⟨w, hw, hnear⟩ := exists_near_round_of_between
        (accuracyOfFraction (m * 2 ^ (e - e' - t).toNat % m') m') htarget hlow hup
      refine ⟨w, ?_, hnear⟩
      rw [UnpackedFloat.div, divCore, ht]
      simp only [Nat.shiftLeft_eq]
      exact hw

theorem floor_mul_two_zpow (m : Nat) (e : Int) :
    ⌊(m * 2 ^ e : ℚ)⌋₊ = m * 2 ^ e.toNat / 2 ^ (-e).toNat := by
  have hexponent : e = e.toNat + -((-e).toNat : Int) := by omega
  have hvalue : (m * 2 ^ e : ℚ) = (m * 2 ^ e.toNat : Nat) / (2 ^ (-e).toNat : Nat) := by
    conv_lhs => rw [hexponent, zpow_add₀ two_ne_zero, zpow_neg, zpow_natCast, zpow_natCast]
    push_cast
    ring
  rw [hvalue, Nat.floor_div_eq_div]

theorem Amounts.toInt (h : Amounts u v) (low high : Int) :
    UnpackedFloat.toInt low high u = ⌊v⌋₊ := by
  cases h with
  | zero s =>
    rw [Nat.floor_zero]
    rfl
  | finite m e hm hc =>
    have hshift : (0 - min e 0).toNat = (-e).toNat := by omega
    rw [floor_mul_two_zpow, UnpackedFloat.toInt, roundToInt, decreaseExponent_eq, Int.sub_zero]
    dsimp only
    rw [shiftToExponent, mantissa_shiftRight, mantissa_ofMantissaAndAccuracy, hshift]
    rfl

/-- Zero, or undefined. -/
def IsVoid (u : UnpackedFloat) : Prop := u = .notANumber ∨ ∃ s, u = .zero s

theorem IsVoid.unpack_pack (h : IsVoid u) : IsVoid (pack u).unpack := by
  rcases h with rfl | ⟨_ | _, rfl⟩
  · exact Or.inl rfl
  · exact Or.inr ⟨.negative, rfl⟩
  · exact Or.inr ⟨.positive, rfl⟩

theorem isVoid_mul_zero (u : UnpackedFloat) (s : Sign) :
    IsVoid (UnpackedFloat.mul .binary64 u (.zero s)) := by
  cases u
  case infinity => exact Or.inl rfl
  case notANumber => exact Or.inl rfl
  all_goals exact Or.inr ⟨_, rfl⟩

theorem IsVoid.div (h : IsVoid u) (u' : UnpackedFloat) :
    IsVoid (UnpackedFloat.div .binary64 u u') := by
  rcases h with rfl | ⟨s, rfl⟩
  · exact Or.inl rfl
  · cases u'
    case notANumber => exact Or.inl rfl
    case zero => exact Or.inl rfl
    all_goals exact Or.inr ⟨_, rfl⟩

theorem Amounts.exists_zero (h : Amounts u v) (hv : v = 0) : ∃ s, u = .zero s := by
  cases h with
  | zero s => exact ⟨s, rfl⟩
  | finite m e hm hc =>
    have hpos : (0 : ℚ) < m * 2 ^ e := by positivity
    exact absurd hv hpos.ne'

end Unpacked

/-! ## Doubles -/

/-- A double is finite and not negative, and this is its exact value. -/
def IsAmount (x : Float) (v : ℚ) : Prop := Amounts x.toModel.unpack v

/-- The exact value of a double, and zero if it is infinite or undefined. -/
def exact (x : Float) : ℚ :=
  match x.toModel.unpack with
  | .finite s m e _ => s.apply m * 2 ^ e
  | _ => 0

section Float

variable {x y : Float} {v w : ℚ}

theorem IsAmount.isFinite (h : IsAmount x v) : x.isFinite = true := by
  rw [IsAmount] at h
  rw [isFinite_eq]
  cases hunpack : x.toModel.unpack <;> rw [hunpack] at h <;> cases h <;> rfl

theorem position_zero : position? 0 = some (toLex (0, toLex (0, 0))) := rfl

theorem IsAmount.pos_iff (h : IsAmount x v) : 0 < x ↔ 0 < v := by
  rw [lt_iff_position, position_zero, position?]
  rw [IsAmount] at h
  generalize x.toModel.unpack = u at h
  cases h with
  | zero s => simp [positionOf]
  | finite m e hm hc =>
    have hpos : (0 : ℚ) < m * 2 ^ e := by positivity
    exact iff_of_true ⟨_, _, rfl, rfl, lt_of_fst_lt (by decide)⟩ hpos

theorem isAmount_exact (hfinite : x.isFinite = true) (hsign : ¬x < 0) : IsAmount x (exact x) := by
  obtain ⟨s, hunpack⟩ | ⟨s, m, e, hm, hunpack⟩ := unpack_of_isFinite hfinite
  · rw [IsAmount, exact, hunpack]
    exact .zero s
  · cases s with
    | negative =>
      have hposition : position? x = some (toLex (-1, toLex (-e, -(m : Int)))) := by
        rw [position?, hunpack]
        rfl
      exact absurd (lt_iff_position.mpr ⟨_, _, hposition, position_zero, lt_of_fst_lt (by decide)⟩)
        hsign
    | positive =>
      rw [IsAmount, exact, hunpack]
      exact .finite m e hm (isCanonical_of_unpack hunpack)

theorem isAmount_or_of_pack {u : UnpackedFloat} (h : Amounts u v) (hx : x.toModel = pack u) :
    (v < 2 ^ (1024 : Int) ∧ IsAmount x v) ∨
      (2 ^ (1024 : Int) ≤ v ∧ x.toModel.unpack = .infinity .positive) := by
  rw [IsAmount, hx]
  exact h.unpack_pack

theorem pos_iff_of_near {s t : ℚ} (h : |s - t| ≤ 2 ^ (-52 : Int) * t) : 0 < s ↔ 0 < t := by
  obtain ⟨hlow, hup⟩ := abs_le.mp h
  have hsmall : (2 : ℚ) ^ (-52 : Int) < 1 := zpow_lt_one_of_neg₀ one_lt_two (by norm_num)
  constructor
  · intro hs
    have hproduct : 0 < (1 + 2 ^ (-52 : Int)) * t := by linarith
    exact (pos_iff_pos_of_mul_pos hproduct).mp (by positivity)
  · intro ht
    have hproduct : 0 < (1 - 2 ^ (-52 : Int)) * t := mul_pos (by linarith) ht
    linarith

theorem IsAmount.add (hx : IsAmount x v) (hy : IsAmount y w) :
    (∃ s, IsAmount (x + y) s ∧ |s - (v + w)| ≤ 2 ^ (-52 : Int) * (v + w)) ∨
      ((x + y).toModel.unpack = .infinity .positive ∧ 0 < v + w) := by
  obtain ⟨s, hs, hnear⟩ := Amounts.add hx hy
  rcases isAmount_or_of_pack (x := x + y) hs rfl with ⟨-, hsum⟩ | ⟨hlarge, hsum⟩
  · exact Or.inl ⟨s, hsum, hnear⟩
  · have hpos : (0 : ℚ) < 2 ^ (1024 : Int) := by positivity
    exact Or.inr ⟨hsum, (pos_iff_of_near hnear).mp (hpos.trans_le hlarge)⟩

theorem unpack_add_of_infinite (hx : x.toModel.unpack = .infinity .positive) (hy : IsAmount y w) :
    (x + y).toModel.unpack = .infinity .positive := by
  change (pack (UnpackedFloat.add .binary64 x.toModel.unpack y.toModel.unpack)).unpack = _
  rw [hx, Amounts.infinity_add hy]
  rfl

/-- What a sum of amounts may be. -/
def IsSum (x : Float) : Prop := (∃ v, IsAmount x v) ∨ x.toModel.unpack = .infinity .positive

theorem zero_lt_of_infinite (hx : x.toModel.unpack = .infinity .positive) : 0 < x := by
  rw [lt_iff_position, position_zero, position?, hx]
  exact ⟨_, _, rfl, rfl, lt_of_fst_lt (by decide)⟩

theorem IsSum.isNaN (h : IsSum x) : x.isNaN = false := by
  rcases h with ⟨v, hv⟩ | hinfinite
  · exact isNaN_of_isFinite hv.isFinite
  · rw [isNaN_eq, hinfinite]
    rfl

theorem IsSum.le_zero_iff (h : IsSum x) : x ≤ 0 ↔ ¬0 < x := by
  constructor
  · intro hle hlt
    have hzero := lt_of_lt_of_le hlt hle
    exact lt_asymm hzero hzero
  · exact le_of_not_lt (IsSum.isNaN (Or.inl ⟨0, .zero .positive⟩)) h.isNaN

theorem IsSum.add (hx : IsSum x) (hy : IsAmount y w) :
    IsSum (x + y) ∧ (0 < x + y ↔ 0 < x ∨ 0 < y) := by
  rcases hx with ⟨v, hx⟩ | hx
  · have hpos : 0 < v + w ↔ 0 < v ∨ 0 < w := by
      have hv := Amounts.nonneg hx
      have hw := Amounts.nonneg hy
      constructor
      · contrapose!
        rintro ⟨hv', hw'⟩
        linarith
      · rintro (hlt | hlt) <;> linarith
    rw [hx.pos_iff, hy.pos_iff, ← hpos]
    rcases hx.add hy with ⟨s, hs, hnear⟩ | ⟨hinfinite, hsum⟩
    · exact ⟨Or.inl ⟨s, hs⟩, hs.pos_iff.trans (pos_iff_of_near hnear)⟩
    · exact ⟨Or.inr hinfinite, iff_of_true (zero_lt_of_infinite hinfinite) hsum⟩
  · have hsum := unpack_add_of_infinite hx hy
    exact ⟨Or.inr hsum, iff_of_true (zero_lt_of_infinite hsum) (Or.inl (zero_lt_of_infinite hx))⟩

theorem IsAmount.eq_zero (h : IsAmount x v) (hzero : ¬0 < x) : v = 0 :=
  le_antisymm (not_lt.mp (h.pos_iff.not.mp hzero)) (Amounts.nonneg h)

theorem IsAmount.lt_of_pos (hx : IsAmount x v) (hzero : ¬0 < x) (hy : 0 < y) : x < y := by
  obtain ⟨s, hunpack⟩ := Amounts.exists_zero hx (hx.eq_zero hzero)
  have hposition : position? x = position? 0 := by
    rw [position_zero, position?, hunpack]
    rfl
  rw [lt_iff_position, hposition, ← lt_iff_position]
  exact hy

theorem isAmount_of_pack {u : UnpackedFloat} (h : Amounts u v) (hx : x.toModel = pack u)
    (hfinite : x.isFinite = true) : IsAmount x v := by
  rcases isAmount_or_of_pack h hx with ⟨-, hamount⟩ | ⟨-, hinfinite⟩
  · exact hamount
  · rw [isFinite_eq, hinfinite] at hfinite
    cases hfinite

theorem IsAmount.exists_mul {n : Nat} (hx : IsAmount x n) (hy : IsAmount y w)
    (hfinite : (x * y).isFinite = true) :
    ∃ p, IsAmount (x * y) p ∧ |p - n * w| ≤ 2 ^ (-52 : Int) * (n * w) := by
  obtain ⟨p, hp, hnear⟩ := Amounts.mul hx rfl hy
  exact ⟨p, isAmount_of_pack hp rfl hfinite, hnear⟩

theorem IsAmount.exists_div (hx : IsAmount x v) (hy : IsAmount y w) (hpos : 0 < w)
    (hle : v / w ≤ 2 ^ 64) :
    ∃ q, IsAmount (x / y) q ∧ |q - v / w| ≤ 2 ^ (-52 : Int) * (v / w) + 2 ^ (-1074 : Int) := by
  obtain ⟨q, hq, hnear⟩ := Amounts.div hx hy hpos
  refine ⟨q, ?_, hnear⟩
  rcases isAmount_or_of_pack (x := x / y) hq rfl with ⟨-, hamount⟩ | ⟨hlarge, -⟩
  · exact hamount
  · have hup := (abs_le.mp hnear).2
    have hquotient : 0 ≤ v / w := div_nonneg (Amounts.nonneg hx) hpos.le
    have hsmall : 2 ^ (-52 : Int) * (v / w) ≤ v / w :=
      mul_le_of_le_one_left hquotient (zpow_le_one_of_nonpos₀ one_le_two (by norm_num))
    have hgrid : (2 : ℚ) ^ (-1074 : Int) ≤ 1 := zpow_le_one_of_nonpos₀ one_le_two (by norm_num)
    have hhuge : (2 : ℚ) ^ (66 : Int) ≤ 2 ^ (1024 : Int) :=
      zpow_le_zpow_right₀ one_le_two (by norm_num)
    have hlarge := hhuge.trans hlarge
    norm_num at hlarge hle
    linarith only [hle, hup, hsmall, hgrid, hlarge]

theorem isAmount_of_lt {u : UnpackedFloat} (h : Amounts u v) (hx : x.toModel = pack u)
    (hlt : v < 2 ^ (1024 : Int)) : IsAmount x v :=
  ((isAmount_or_of_pack h hx).resolve_right fun hlarge => hlt.not_ge hlarge.1).2

theorem natCast_lt_two_zpow {n : Nat} (hn : n < 2 ^ 53) : (n : ℚ) < 2 ^ (1024 : Int) := by
  have hlt := lt_two_zpow_add (e := 0) (f := 971) hn (by norm_num)
  rwa [zpow_zero, mul_one] at hlt

theorem isAmount_toFloat {n : Nat} (hpos : 0 < n) (hn : n < 2 ^ 53) :
    IsAmount n.toUInt64.toFloat n := by
  have hlog : n.log2 < 53 := (Nat.log2_lt (Nat.ne_of_gt hpos)).mpr hn
  have hshift := log2_shiftLeft hpos (52 - n.log2)
  have htarget : target (n <<< (52 - n.log2)) (n.log2 - 52) = n.log2 - 52 := by
    rw [target]
    omega
  have hvalue : ((n <<< (52 - n.log2) : Nat) * 2 ^ (n.log2 - 52 : Int) : ℚ) = n := by
    have hexponent : ((52 - n.log2 : Nat) : Int) + (n.log2 - 52) = 0 := by omega
    rw [Nat.shiftLeft_eq, Nat.cast_mul, Nat.cast_pow, Nat.cast_ofNat, mul_assoc, ← zpow_natCast,
      ← zpow_add₀ two_ne_zero, hexponent, zpow_zero, mul_one]
  have hround := amounts_round_of_dvd htarget.ge (by simp [htarget])
  rw [hvalue] at hround
  exact isAmount_of_lt hround (toModel_toFloat hpos hn) (natCast_lt_two_zpow hn)

theorem isAmount_ofNat {n : Nat} (hn : n < 2 ^ 53) : IsAmount (Float.ofNat n) n := by
  rcases Nat.eq_zero_or_pos n with rfl | hpos
  · rw [Nat.cast_zero]
    exact Amounts.zero .positive
  · rw [ofNat_of_lt hn]
    exact isAmount_of_lt (isAmount_toFloat hpos hn).mul_one rfl (natCast_lt_two_zpow hn)

theorem IsAmount.floor_eq (h : IsAmount x v) : Scalar.floor x = min ⌊v⌋₊ (2 ^ 64 - 1) := by
  have hint := Amounts.toInt h 0 (UInt64.size - 1)
  change (UInt64.ofNatClamp (UnpackedFloat.toInt 0 (UInt64.size - 1) x.toModel.unpack).toNat).toNat = _
  rw [hint, Int.toNat_natCast, UInt64.ofNatClamp]
  split
  · rename_i hlt
    rw [UInt64.toNat_ofNatLT, min_eq_left]
    exact Nat.le_pred_of_lt hlt
  · rename_i hge
    rw [UInt64.toNat_ofNatLT, min_eq_right]
    · rfl
    · exact (Nat.sub_le _ _).trans (not_lt.mp hge)

/-- A multiple of zero is zero or undefined, whatever it is divided by. -/
theorem IsAmount.floor_mul_div (h : IsAmount x 0) (y z : Float) : Scalar.floor (y * x / z) = 0 := by
  obtain ⟨s, hx⟩ := Amounts.exists_zero h rfl
  have hproduct := isVoid_mul_zero y.toModel.unpack s
  have hquotient := hproduct.unpack_pack.div z.toModel.unpack
  change (UInt64.ofNatClamp (UnpackedFloat.toInt 0 (UInt64.size - 1)
    (pack (UnpackedFloat.div .binary64 (pack (UnpackedFloat.mul .binary64 y.toModel.unpack
      x.toModel.unpack)).unpack z.toModel.unpack)).unpack).toNat).toNat = 0
  rw [hx]
  rcases hquotient.unpack_pack with hnan | ⟨s, hzero⟩
  · rw [hnan]
    rfl
  · rw [hzero]
    rfl

end Float

end GpuCluster.Number
