import Mathlib
import GpuCluster.Proofs.Number.Finite

/-!
# Rounding of doubles

A double that is not negative has an exact value, a rational number. A sum of two such doubles, and a
product with a whole number, differ from the exact one by no more than a small part of it, since both lie
on the grid of the doubles where these are finest. A quotient may be off by the width of that grid, too.
-/

namespace GpuCluster.Number

open Float.Model UnpackedFloat

/-! ## Exact values -/

/-- The significands and exponents of finite doubles. -/
structure IsCanonical (m : Nat) (e : Int) : Prop where
  lt : m < 2 ^ 53
  le : -1074 ≤ e
  full : 2 ^ 52 ≤ m ∨ e = -1074

/-- A number that is not negative, before it is packed into a double. -/
inductive Amounts : UnpackedFloat → ℚ → Prop where
  | zero (s : Sign) : Amounts (.zero s) 0
  | finite (m : Nat) (e : Int) (h : 0 < m) (hc : IsCanonical m e) :
      Amounts (.finite .positive m e h) (m * 2 ^ e)

theorem Amounts.nonneg {u : UnpackedFloat} {v : ℚ} (h : Amounts u v) : 0 ≤ v := by
  cases h <;> positivity

/-! ## Shifts -/

/-- The exponent to which a number is rounded. -/
def target (m : Nat) (e : Int) : Int := max (m.log2 + e - 52) (-1074)

theorem targetExponent_totalExponent (m : Nat) (e : Int) :
    Format.binary64.targetExponent (totalExponent m e) = target m e := by
  rw [targetExponent_binary64, target, totalExponent]
  congr 1
  omega

section Shift

variable {m : Nat} {e : Int}

theorem shiftToTargetExponent_of_le (accuracy : Accuracy) (h : e ≤ target m e) :
    shiftToTargetExponent .binary64 m e accuracy =
      (ExtendedMantissa.ofMantissaAndAccuracy m accuracy >>> (target m e - e).toNat, target m e) := by
  rw [shiftToTargetExponent, targetExponent_totalExponent, shiftToExponent]
  refine Prod.ext rfl ?_
  dsimp only
  omega

theorem shiftToTargetExponent_of_lt (hm : m < 2 ^ 53) (he : -1074 ≤ e) :
    shiftToTargetExponent .binary64 m e .exact = (⟨m, false, false⟩, e) := by
  have hlog : m.log2 ≤ 52 := by
    by_cases h : m = 0
    · simp [h]
    · exact Nat.lt_succ_iff.mp ((Nat.log2_lt h).mpr hm)
  have hzero : (target m e - e).toNat = 0 := by
    rw [target]
    omega
  rw [shiftToTargetExponent, targetExponent_totalExponent, shiftToExponent, hzero]
  simp only [Int.natCast_zero, Int.add_zero]
  rfl

theorem shiftToTargetExponent_carry (he : -1074 ≤ e) :
    shiftToTargetExponent .binary64 (2 ^ 53) e .exact = (⟨2 ^ 52, false, false⟩, e + 1) := by
  have htarget : target (2 ^ 53) e = e + 1 := by
    rw [target, Nat.log2_two_pow]
    omega
  rw [shiftToTargetExponent_of_le .exact (by omega), htarget, add_sub_cancel_left]
  rfl

theorem shiftRight_of_dvd {k : Nat} (h : 2 ^ k ∣ m) :
    (⟨m, false, false⟩ : ExtendedMantissa) >>> k = ⟨m / 2 ^ k, false, false⟩ := by
  induction k with
  | zero => simp [HShiftRight.hShiftRight, Nat.repeat]
  | succ k ih =>
    have hk : 2 ^ k ∣ m := (Nat.pow_dvd_pow 2 (Nat.le_succ k)).trans h
    have heven : m / 2 ^ k % 2 = 0 := by
      rw [pow_succ] at h
      exact Nat.mod_eq_zero_of_dvd (Nat.dvd_div_of_mul_dvd h)
    change ExtendedMantissa.shiftRightOne ((⟨m, false, false⟩ : ExtendedMantissa) >>> k) = _
    rw [ih hk, ExtendedMantissa.shiftRightOne]
    simp [heven, Nat.div_div_eq_div_mul, pow_succ]

end Shift

/-! ## Rounding -/

section Round

variable {m : Nat} {e : Int}

theorem div_two_pow_lt (m : Nat) (e : Int) : m / 2 ^ (target m e - e).toNat < 2 ^ 53 := by
  have hlog : m.log2 + 1 ≤ 53 + (target m e - e).toNat := by
    rw [target]
    omega
  rw [Nat.div_lt_iff_lt_mul (Nat.two_pow_pos _), ← Nat.pow_add]
  exact Nat.lt_log2_self.trans_le (Nat.pow_le_pow_right Nat.two_pos hlog)

theorem le_div_of_le_target (h : e ≤ target m e) (hne : target m e ≠ -1074) :
    2 ^ 52 ≤ m / 2 ^ (target m e - e).toNat := by
  have htarget : target m e = m.log2 + e - 52 := by
    rw [target] at hne ⊢
    omega
  have hlog : 52 + (target m e - e).toNat = m.log2 := by omega
  have hm : m ≠ 0 := by
    rintro rfl
    rw [Nat.log2_zero] at hlog
    omega
  rw [Nat.le_div_iff_mul_le (Nat.two_pow_pos _), ← Nat.pow_add, hlog]
  exact Nat.log2_self_le hm

/-- The second shift keeps a number, and drops one bit when rounding has carried into a further one. -/
theorem amounts_shiftToTargetExponent {r : Nat} {t : Int} (hr : r ≤ 2 ^ 53) (ht : -1074 ≤ t)
    (hfull : 2 ^ 52 ≤ r ∨ t = -1074) :
    Amounts (if h : (shiftToTargetExponent .binary64 r t .exact).1.mantissa = 0 then .zero .positive
      else .finite .positive (shiftToTargetExponent .binary64 r t .exact).1.mantissa
        (shiftToTargetExponent .binary64 r t .exact).2 (Nat.pos_of_ne_zero h)) (r * 2 ^ t) := by
  rcases hr.lt_or_eq with hr | rfl
  · rw [shiftToTargetExponent_of_lt hr ht]
    dsimp only
    split
    · rename_i hzero
      rw [hzero, Nat.cast_zero, zero_mul]
      exact .zero _
    · exact .finite r t _ ⟨hr, ht, hfull⟩
  · have hvalue : ((2 ^ 53 : Nat) : ℚ) * 2 ^ t = (2 ^ 52 : Nat) * 2 ^ (t + 1) := by
      rw [zpow_add_one₀ two_ne_zero]
      push_cast
      ring
    rw [shiftToTargetExponent_carry ht, hvalue]
    exact .finite _ _ _ ⟨by norm_num, by omega, Or.inl le_rfl⟩

/-- A number is rounded to one of the two neighbours on the grid of its target exponent. -/
theorem exists_amounts_round (accuracy : Accuracy) (h : e ≤ target m e) :
    ∃ r : Nat, Amounts (roundWithAccuracy .binary64 .positive m e accuracy) (r * 2 ^ target m e) ∧
      m / 2 ^ (target m e - e).toNat ≤ r ∧ r ≤ m / 2 ^ (target m e - e).toNat + 1 ∧
      (accuracy = .exact → 2 ^ (target m e - e).toNat ∣ m →
        r = m / 2 ^ (target m e - e).toNat) := by
  have hlow := le_roundedMantissa
    (ExtendedMantissa.ofMantissaAndAccuracy m accuracy >>> (target m e - e).toNat)
  have hup := roundedMantissa_le
    (ExtendedMantissa.ofMantissaAndAccuracy m accuracy >>> (target m e - e).toNat)
  rw [mantissa_shiftRight, mantissa_ofMantissaAndAccuracy] at hlow hup
  have hsmall := div_two_pow_lt m e
  refine ⟨_, ?_, hlow, hup, ?_⟩
  · rw [roundWithAccuracy, shiftToTargetExponent_of_le accuracy h]
    refine amounts_shiftToTargetExponent (by omega) (le_max_right _ _) ?_
    exact or_iff_not_imp_right.mpr fun hne => (le_div_of_le_target h hne).trans hlow
  · rintro rfl hdvd
    rw [ExtendedMantissa.ofMantissaAndAccuracy, shiftRight_of_dvd hdvd]
    rfl

theorem two_zpow_target (h : e ≤ target m e) :
    (2 : ℚ) ^ target m e = 2 ^ (target m e - e).toNat * 2 ^ e := by
  rw [← zpow_natCast, ← zpow_add₀ two_ne_zero]
  congr 1
  omega

theorem two_zpow_target_le (h : e ≤ target m e) (hne : target m e ≠ -1074) :
    (2 : ℚ) ^ target m e ≤ 2 ^ (-52 : Int) * (m * 2 ^ e) := by
  have hlog : target m e = -52 + (m.log2 + e) := by
    rw [target] at hne ⊢
    omega
  have hm : m ≠ 0 := by
    rintro rfl
    rw [Nat.log2_zero] at hlog
    omega
  have hle : ((2 ^ m.log2 : Nat) : ℚ) ≤ m := Nat.cast_le.mpr (Nat.log2_self_le hm)
  have hpow : (2 : ℚ) ^ target m e = 2 ^ (-52 : Int) * ((2 ^ m.log2 : Nat) * 2 ^ e) := by
    rw [hlog, zpow_add₀ two_ne_zero, zpow_add₀ two_ne_zero, zpow_natCast, Nat.cast_pow,
      Nat.cast_ofNat]
  rw [hpow]
  gcongr

/-- A number between two neighbours on its own grid is rounded to near by. -/
theorem exists_near_round (accuracy : Accuracy) (h : e ≤ target m e) {x : ℚ}
    (hlow : m * 2 ^ e ≤ x) (hup : x ≤ (m + 1) * 2 ^ e) :
    ∃ v, Amounts (roundWithAccuracy .binary64 .positive m e accuracy) v ∧
      |v - x| ≤ 2 ^ target m e := by
  obtain ⟨r, hr, hle, hge, -⟩ := exists_amounts_round accuracy h
  refine ⟨_, hr, ?_⟩
  have hpos := Nat.two_pow_pos (target m e - e).toNat
  have hfloor : ((m / 2 ^ (target m e - e).toNat : Nat) : ℚ) * 2 ^ target m e ≤ x := by
    refine le_trans ?_ hlow
    rw [two_zpow_target h, ← mul_assoc]
    gcongr
    exact_mod_cast Nat.div_mul_le_self m _
  have hceil : x ≤ ((m / 2 ^ (target m e - e).toNat : Nat) + 1 : ℚ) * 2 ^ target m e := by
    refine hup.trans ?_
    rw [two_zpow_target h, ← mul_assoc]
    gcongr
    exact_mod_cast Nat.lt_mul_of_div_lt (Nat.lt_succ_self _) hpos
  have hgrid : (0 : ℚ) < 2 ^ target m e := by positivity
  have hle' : ((m / 2 ^ (target m e - e).toNat : Nat) : ℚ) ≤ r := Nat.cast_le.mpr hle
  have hge' : (r : ℚ) ≤ (m / 2 ^ (target m e - e).toNat : Nat) + 1 := by exact_mod_cast hge
  rw [abs_le]
  constructor <;> nlinarith

theorem exists_near_round_of_between (accuracy : Accuracy) (h : e ≤ target m e) {x : ℚ}
    (hlow : m * 2 ^ e ≤ x) (hup : x ≤ (m + 1) * 2 ^ e) :
    ∃ v, Amounts (roundWithAccuracy .binary64 .positive m e accuracy) v ∧
      |v - x| ≤ 2 ^ (-52 : Int) * x + 2 ^ (-1074 : Int) := by
  obtain ⟨v, hv, hnear⟩ := exists_near_round accuracy h hlow hup
  refine ⟨v, hv, hnear.trans ?_⟩
  have hpos : (0 : ℚ) ≤ m * 2 ^ e := by positivity
  by_cases hmin : target m e = -1074
  · rw [hmin]
    exact le_add_of_nonneg_left (mul_nonneg (by positivity) (hpos.trans hlow))
  · calc
      (2 : ℚ) ^ target m e ≤ 2 ^ (-52 : Int) * (m * 2 ^ e) := two_zpow_target_le h hmin
      _ ≤ 2 ^ (-52 : Int) * x := mul_le_mul_of_nonneg_left hlow (by positivity)
      _ ≤ 2 ^ (-52 : Int) * x + 2 ^ (-1074 : Int) := le_add_of_nonneg_right (by positivity)

theorem amounts_round_of_dvd (h : e ≤ target m e) (hdvd : 2 ^ (target m e - e).toNat ∣ m) :
    Amounts (roundWithAccuracy .binary64 .positive m e .exact) (m * 2 ^ e) := by
  obtain ⟨r, hr, -, -, hexact⟩ := exists_amounts_round .exact h
  have hvalue : (r * 2 ^ target m e : ℚ) = m * 2 ^ e := by
    rw [two_zpow_target h, ← mul_assoc]
    congr 1
    rw [hexact rfl hdvd]
    exact_mod_cast Nat.div_mul_cancel hdvd
  exact hvalue ▸ hr

/-- A number on the finest grid loses no more than a small part of itself. -/
theorem exists_near_round_of_grid (h : e ≤ target m e)
    (hgrid : ∃ n : Nat, (m * 2 ^ e : ℚ) = n * 2 ^ (-1074 : Int)) :
    ∃ v, Amounts (roundWithAccuracy .binary64 .positive m e .exact) v ∧
      |v - m * 2 ^ e| ≤ 2 ^ (-52 : Int) * (m * 2 ^ e) := by
  -- On the finest grid the number is kept; a coarser one is fine for a number with so many bits.
  by_cases hmin : target m e = -1074
  · obtain ⟨n, hn⟩ := hgrid
    have hdvd : m = n * 2 ^ (target m e - e).toNat := by
      rw [← hmin, two_zpow_target h, ← mul_assoc] at hn
      have hcast := mul_right_cancel₀ (by positivity) hn
      exact_mod_cast hcast
    refine ⟨_, amounts_round_of_dvd h (Dvd.intro_left n hdvd.symm), ?_⟩
    rw [sub_self, abs_zero]
    positivity
  · obtain ⟨v, hv, hnear⟩ := exists_near_round .exact h le_rfl (by gcongr; linarith)
    exact ⟨v, hv, hnear.trans (two_zpow_target_le h hmin)⟩

theorem decreaseExponent_eq (m : Nat) (e t : Int) :
    decreaseExponent m e t = (m * 2 ^ (e - t).toNat, min e t) := by
  rw [decreaseExponent]
  refine Prod.ext (Nat.shiftLeft_eq _ _) ?_
  dsimp only
  omega

theorem mul_two_zpow_min (m : Nat) (e t : Int) :
    ((m * 2 ^ (e - t).toNat : Nat) * 2 ^ min e t : ℚ) = m * 2 ^ e := by
  have hexponent : e = (e - t).toNat + min e t := by omega
  conv_rhs => rw [hexponent, zpow_add₀ two_ne_zero, zpow_natCast]
  push_cast
  ring

theorem target_decreaseExponent (hm : 0 < m) :
    target (m * 2 ^ (e - target m e).toNat) (min e (target m e)) = target m e := by
  have hlog := log2_shiftLeft hm (e - target m e).toNat
  rw [Nat.shiftLeft_eq] at hlog
  simp only [target] at hlog ⊢
  omega

theorem exists_eq_mul_finest (he : -1074 ≤ e) :
    ∃ n : Nat, (m * 2 ^ e : ℚ) = n * 2 ^ (-1074 : Int) := by
  refine ⟨m * 2 ^ (e - (-1074)).toNat, ?_⟩
  rw [← mul_two_zpow_min m e (-1074), min_eq_right he]

theorem exists_near_round_of_le (hm : 0 < m) (he : -1074 ≤ e) :
    ∃ v, Amounts (UnpackedFloat.round .binary64 .positive m e) v ∧
      |v - m * 2 ^ e| ≤ 2 ^ (-52 : Int) * (m * 2 ^ e) := by
  have htarget : min e (target m e) ≤
      target (m * 2 ^ (e - target m e).toNat) (min e (target m e)) := by
    rw [target_decreaseExponent hm]
    exact min_le_right _ _
  have hgrid := exists_eq_mul_finest (m := m) he
  rw [← mul_two_zpow_min m e (target m e)] at hgrid
  have hnear := exists_near_round_of_grid htarget hgrid
  rw [mul_two_zpow_min] at hnear
  rw [UnpackedFloat.round, targetExponent_totalExponent]
  dsimp only
  rw [decreaseExponent_eq]
  exact hnear

end Round

/-! ## Packing -/

section Pack

variable {sign : Sign} {m : Nat} {e : Int} {h : 0 < m}

theorem unpack_pack_of_min (hm : m < 2 ^ 52) :
    (pack (.finite sign m (-1074) h)).unpack = .finite sign m (-1074) h := by
  have hlog : m.log2 < 52 := (Nat.log2_lt (Nat.ne_of_gt h)).mpr hm
  have hnat : (BitVec.ofNat 52 m).toNat = m := by
    rw [BitVec.toNat_ofNat, Nat.mod_eq_of_lt hm]
  have hne : BitVec.ofNat 52 m ≠ 0#52 := by
    intro hzero
    have hzero := congrArg BitVec.toNat hzero
    rw [hnat, BitVec.toNat_ofNat] at hzero
    omega
  have hbits : m.log2 + 1 ≠ Format.binary64.mantissaBits := by
    have : Format.binary64.mantissaBits = 53 := rfl
    omega
  rw [unpack_pack, UnpackedFloat.pack]
  dsimp only
  rw [if_neg (by decide), if_neg hbits, UnpackedFloat.unpack]
  simp only [unpackMantissa_packComponents, unpackExponent_packComponents,
    unpackSign_packComponents, ofBitVec_toBitVec]
  rw [if_neg (by decide), if_pos trivial, dif_neg hne]
  simp only [hnat]
  rfl

theorem unpack_pack_of_isCanonical (hc : IsCanonical m e) (he : e ≤ 971) :
    (pack (.finite sign m e h)).unpack = .finite sign m e h := by
  rcases Nat.lt_or_ge m (2 ^ 52) with hm | hm
  · obtain rfl : e = -1074 := hc.full.resolve_left (Nat.not_le.mpr hm)
    exact unpack_pack_of_min hm
  · have hlt := hc.lt
    exact unpack_pack_of_log2 sign e h ((Nat.log2_eq_iff (Nat.ne_of_gt h)).mpr ⟨hm, hlt⟩) hc.le he

theorem unpack_pack_of_lt (he : 971 < e) : (pack (.finite sign m e h)).unpack = .infinity sign := by
  have hbiased : 2 ^ Format.binary64.exponentBits ≤
      (e + Format.binary64.exponentBias + Format.binary64.mantissaBitsWithoutImplicit).toNat + 1 := by
    simp [Format.exponentBias]
    omega
  rw [unpack_pack, UnpackedFloat.pack]
  dsimp only
  rw [if_pos hbiased]
  cases sign <;> rfl

end Pack

theorem two_zpow_add_le {m : Nat} {e f : Int} {k : Nat} (hm : 2 ^ k ≤ m) (he : f ≤ e) :
    (2 : ℚ) ^ (k + f) ≤ m * 2 ^ e := by
  have hm' : (2 : ℚ) ^ k ≤ m := by exact_mod_cast hm
  have hpow : (2 : ℚ) ^ f ≤ 2 ^ e := zpow_le_zpow_right₀ one_le_two he
  rw [zpow_add₀ two_ne_zero, zpow_natCast]
  gcongr

theorem lt_two_zpow_add {m : Nat} {e f : Int} {k : Nat} (hm : m < 2 ^ k) (he : e ≤ f) :
    (m * 2 ^ e : ℚ) < 2 ^ (k + f) := by
  have hm' : (m : ℚ) < 2 ^ k := by exact_mod_cast hm
  have hpow : (2 : ℚ) ^ e ≤ 2 ^ f := zpow_le_zpow_right₀ one_le_two he
  rw [zpow_add₀ two_ne_zero, zpow_natCast]
  calc
    (m * 2 ^ e : ℚ) < 2 ^ k * 2 ^ e := by gcongr
    _ ≤ 2 ^ k * 2 ^ f := by gcongr

/-- A number becomes infinite when it is packed, if it is too large, and is kept otherwise. -/
theorem Amounts.unpack_pack {u : UnpackedFloat} {v : ℚ} (h : Amounts u v) :
    (v < 2 ^ (1024 : Int) ∧ Amounts (pack u).unpack v) ∨
      (2 ^ (1024 : Int) ≤ v ∧ (pack u).unpack = .infinity .positive) := by
  cases h with
  | zero s =>
    refine Or.inl ⟨by positivity, ?_⟩
    cases s <;> exact .zero _
  | finite m e h hc =>
    rcases le_or_gt e 971 with he | he
    · refine Or.inl ⟨lt_two_zpow_add hc.lt he, ?_⟩
      rw [unpack_pack_of_isCanonical hc he]
      exact .finite m e h hc
    · have hfull := hc.full.resolve_right (by omega)
      exact Or.inr ⟨two_zpow_add_le hfull (Int.add_one_le_iff.mpr he), unpack_pack_of_lt he⟩

/-! ## Unpacking -/

theorem isCanonical_of_unpack {b : BitVec 64} {s : Sign} {m : Nat} {e : Int} {h : 0 < m}
    (hunpack : UnpackedFloat.unpack .binary64 b = .finite s m e h) : IsCanonical m e := by
  rw [UnpackedFloat.unpack] at hunpack
  dsimp only at hunpack
  split at hunpack
  · split at hunpack <;> cases hunpack
  · split at hunpack
    · split at hunpack
      · cases hunpack
      · cases hunpack
        rename_i hexponent _
        have hlt := (@unpackMantissa .binary64 b).isLt
        rw [hexponent]
        exact ⟨hlt.trans (by norm_num), by decide, Or.inr (by decide)⟩
    · cases hunpack
      rename_i hexponent
      have hlt := (@unpackMantissa .binary64 b).isLt
      have hbits := toNat_one_append (@unpackMantissa .binary64 b)
      have hpos : 0 < (@unpackExponent .binary64 b).toNat := by
        rw [BitVec.toNat_pos, BitVec.pos_iff_ne_zero]
        exact hexponent
      refine ⟨hbits.trans_lt ?_, ?_, Or.inl (hbits.symm ▸ Nat.le_add_right _ _)⟩
      · have hsize : 2 ^ Format.binary64.mantissaBitsWithoutImplicit = 2 ^ 52 := rfl
        omega
      · change (-1074 : Int) ≤ (@unpackExponent .binary64 b).toNat - 1075
        omega

end GpuCluster.Number
