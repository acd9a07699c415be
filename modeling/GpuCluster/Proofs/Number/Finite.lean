import Mathlib
import GpuCluster.Proofs.Number.Extremes

/-!
# Finite doubles

An operation on finite doubles has a defined result, and a finite one when the exponents leave room. A
double with all fifty-three bits in use stays one through products and quotients, whose exponents lie
within two of the exact sum or difference. Machine words become such doubles.
-/

namespace GpuCluster.Number

open Float.Model UnpackedFloat

/-! ## Packing -/

theorem unpackSign_packComponents {spec : Format} {sign : Sign}
    {exponent : BitVec spec.exponentBits} {significand : BitVec spec.mantissaBitsWithoutImplicit} :
    unpackSign (packComponents spec sign exponent significand) = sign.toBitVec := by
  ext i hi
  obtain rfl : i = 0 := by omega
  simp [unpackSign, packComponents, BitVec.getElem_append, BitVec.getLsbD_append]

theorem ofBitVec_toBitVec (sign : Sign) : Sign.ofBitVec sign.toBitVec = sign := by
  cases sign <;> rfl

theorem toNat_one_append (significand : BitVec 52) :
    (1#1 ++ significand).toNat = 2 ^ 52 + significand.toNat := by
  rw [BitVec.toNat_append, ← Nat.shiftLeft_add_eq_or_of_lt significand.isLt]
  rfl

section Components

variable (sign : Sign) {exponent : BitVec 11} (significand : BitVec 52)

/-- Between the first and the last exponent a significand has its leading bit. -/
theorem exists_unpack_of_ne_first (hfirst : exponent ≠ 0#_) (hlast : exponent ≠ -1#_) :
    ∃ h, UnpackedFloat.unpack .binary64 (packComponents .binary64 sign exponent significand) =
      .finite sign (2 ^ 52 + significand.toNat) (exponent.toNat - 1075 : Int) h := by
  refine ⟨by omega, ?_⟩
  rw [UnpackedFloat.unpack]
  simp only [unpackMantissa_packComponents, unpackExponent_packComponents,
    unpackSign_packComponents, ofBitVec_toBitVec]
  rw [if_neg hlast, if_neg hfirst]
  simp only [← toNat_one_append]
  rfl

theorem unpack_of_ne_last (hlast : exponent ≠ -1#_) :
    UnpackedFloat.unpack .binary64 (packComponents .binary64 sign exponent significand) =
        .zero sign ∨
      ∃ m e h, UnpackedFloat.unpack .binary64
        (packComponents .binary64 sign exponent significand) = .finite sign m e h := by
  rw [UnpackedFloat.unpack]
  simp only [unpackMantissa_packComponents, unpackExponent_packComponents,
    unpackSign_packComponents, ofBitVec_toBitVec]
  rw [if_neg hlast]
  split
  · split
    · exact Or.inl rfl
    · rename_i hne
      have hpos : 0 < significand.toNat := by
        rw [BitVec.toNat_pos, BitVec.pos_iff_ne_zero]
        exact hne
      exact Or.inr ⟨_, _, hpos, rfl⟩
  · have hpos : 0 < (1#1 ++ significand).toNat := by
      rw [toNat_one_append]
      omega
    exact Or.inr ⟨_, _, hpos, rfl⟩

end Components

section Pack

variable (sign : Sign) {m : Nat} (e : Int) (h : 0 < m)

theorem unpack_pack (u : UnpackedFloat) :
    (pack u).unpack = UnpackedFloat.unpack .binary64 (UnpackedFloat.pack .binary64 u) := rfl

/-- Too large a number becomes infinite when it is packed, and too small a one zero. -/
theorem unpack_pack_finite :
    (pack (.finite sign m e h)).unpack = .infinity sign ∨
      (pack (.finite sign m e h)).unpack = .zero sign ∨
        ∃ m' e' h', (pack (.finite sign m e h)).unpack = .finite sign m' e' h' := by
  rw [unpack_pack, UnpackedFloat.pack]
  dsimp only
  split
  · exact Or.inl (by cases sign <;> rfl)
  · rename_i hsmall
    right
    split
    · refine unpack_of_ne_last sign _ fun hlast => ?_
      have hnat := congrArg BitVec.toNat hlast
      simp [BitVec.neg_one_eq_allOnes] at hnat hsmall
      omega
    · exact unpack_of_ne_last sign _ (by decide)

/-- A number with fifty-three bits is kept, as long as its exponent is one of a double. -/
theorem unpack_pack_of_log2 (hm : m.log2 = 52) (hlow : -1074 ≤ e) (hup : e ≤ 971) :
    (pack (.finite sign m e h)).unpack = .finite sign m e h := by
  have hbiased : e + Format.binary64.exponentBias + Format.binary64.mantissaBitsWithoutImplicit =
      e + 1075 := by
    simp [Format.exponentBias]
    omega
  have hnat : (BitVec.ofNat 11 (e + 1075).toNat).toNat = (e + 1075).toNat := by
    simp only [BitVec.toNat_ofNat]
    omega
  have hfirst : BitVec.ofNat 11 (e + 1075).toNat ≠ 0#_ := by
    intro hzero
    have hzero := congrArg BitVec.toNat hzero
    rw [hnat, BitVec.toNat_ofNat] at hzero
    omega
  have hlast : BitVec.ofNat 11 (e + 1075).toNat ≠ -1#_ := by
    intro hones
    have hones := congrArg BitVec.toNat hones
    rw [hnat, BitVec.neg_one_eq_allOnes, BitVec.toNat_allOnes] at hones
    omega
  have hbits := (Nat.log2_eq_iff (Nat.ne_of_gt h)).mp hm
  have hsignificand : 2 ^ 52 + (BitVec.ofNat 52 m).toNat = m := by
    rw [BitVec.toNat_ofNat]
    omega
  have hexponent : ((BitVec.ofNat 11 (e + 1075).toNat).toNat - 1075 : Int) = e := by omega
  obtain ⟨h', hunpack⟩ := exists_unpack_of_ne_first sign (BitVec.ofNat 52 m) hfirst hlast
  rw [unpack_pack, UnpackedFloat.pack]
  dsimp only
  rw [hbiased, if_neg (by omega), if_pos (by rw [hm]; rfl)]
  simp only [hsignificand, hexponent] at hunpack
  exact hunpack

theorem isNaN_unpack_pack {u : UnpackedFloat} (hu : u.isNaN = false) :
    (pack u).unpack.isNaN = false := by
  cases u with
  | notANumber => cases hu
  | infinity sign => cases sign <;> rfl
  | zero sign => cases sign <;> rfl
  | finite sign m e h =>
    obtain hinfinite | hzero | ⟨m', e', h', hfinite⟩ :=
      unpack_pack_finite sign e h
    · rw [hinfinite]
      rfl
    · rw [hzero]
      rfl
    · rw [hfinite]
      rfl

end Pack

/-! ## Rounding -/

theorem mantissa_shiftRight (em : ExtendedMantissa) (k : Nat) :
    (em >>> k).mantissa = em.mantissa / 2 ^ k := by
  induction k with
  | zero => simp [HShiftRight.hShiftRight, Nat.repeat]
  | succ k ih =>
    change (em >>> k).mantissa / 2 = _
    rw [ih, Nat.div_div_eq_div_mul, Nat.pow_succ]

theorem mantissa_ofMantissaAndAccuracy (m : Nat) (accuracy : Accuracy) :
    (ExtendedMantissa.ofMantissaAndAccuracy m accuracy).mantissa = m := by
  rcases accuracy with _ | (_ | _ | _) <;> rfl

theorem le_roundedMantissa (em : ExtendedMantissa) : em.mantissa ≤ em.roundedMantissa := by
  obtain ⟨m, _ | _, _ | _⟩ := em <;>
    simp [ExtendedMantissa.roundedMantissa, ExtendedMantissa.accuracy, Accuracy.roundToNearestEven]

theorem roundedMantissa_le (em : ExtendedMantissa) : em.roundedMantissa ≤ em.mantissa + 1 := by
  obtain ⟨m, _ | _, _ | _⟩ := em <;>
    simp [ExtendedMantissa.roundedMantissa, ExtendedMantissa.accuracy, Accuracy.roundToNearestEven]
  omega

theorem targetExponent_binary64 (t : Int) :
    Format.binary64.targetExponent t = max (t - 53) (-1074) := rfl

theorem log2_div_two_pow {m k n : Nat} (hm : m ≠ 0) (h : m.log2 = n + k) :
    (m / 2 ^ k).log2 = n := by
  have hle : 2 ^ n ≤ m / 2 ^ k := by
    rw [Nat.le_div_iff_mul_le (Nat.two_pow_pos k), ← Nat.pow_add, ← h]
    exact Nat.log2_self_le hm
  have hpos := Nat.two_pow_pos n
  rw [Nat.log2_eq_iff (by omega)]
  refine ⟨hle, ?_⟩
  rw [Nat.div_lt_iff_lt_mul (Nat.two_pow_pos k), ← Nat.pow_add, Nat.add_right_comm, ← h]
  exact Nat.lt_log2_self

section Round

variable {m : Nat} {e : Int} (hm : 52 ≤ m.log2) (he : -1074 ≤ totalExponent m e - 53)
  (accuracy : Accuracy)

include hm he

/-- A shift leaves fifty-three bits. -/
theorem exists_shiftToTargetExponent :
    ∃ em, shiftToTargetExponent .binary64 m e accuracy = (em, totalExponent m e - 53) ∧
      em.mantissa.log2 = 52 := by
  have hshift : (totalExponent m e - 53 - e).toNat = m.log2 - 52 := by
    simp only [totalExponent]
    omega
  refine ⟨_, Prod.ext rfl ?_, ?_⟩
  · rw [shiftToTargetExponent, shiftToExponent, targetExponent_binary64, max_eq_left he, hshift]
    simp only [totalExponent]
    omega
  · simp only [shiftToTargetExponent, shiftToExponent]
    rw [targetExponent_binary64, max_eq_left he, hshift, mantissa_shiftRight,
      mantissa_ofMantissaAndAccuracy]
    refine log2_div_two_pow ?_ (by omega)
    rintro rfl
    simp at hm

/-- Rounding leaves fifty-three bits, and may raise the exponent by one. -/
theorem exists_roundWithAccuracy (sign : Sign) :
    ∃ m' e' h, roundWithAccuracy .binary64 sign m e accuracy = .finite sign m' e' h ∧
      m'.log2 = 52 ∧ totalExponent m e - 53 ≤ e' ∧ e' ≤ totalExponent m e - 52 := by
  obtain ⟨em, hfirst, hem⟩ := exists_shiftToTargetExponent hm he accuracy
  have hne : em.mantissa ≠ 0 := by
    intro hzero
    simp [hzero] at hem
  have hbits := (Nat.log2_eq_iff hne).mp hem
  have hle := le_roundedMantissa em
  have hge := roundedMantissa_le em
  have hlog : em.roundedMantissa.log2 = 52 ∨ em.roundedMantissa.log2 = 53 := by
    rw [Nat.log2_eq_iff (by omega), Nat.log2_eq_iff (by omega)]
    omega
  -- When rounding has carried into a further bit, the second shift drops one.
  have htotal : totalExponent em.roundedMantissa (totalExponent m e - 53) - 53 =
      totalExponent m e - 53 + (em.roundedMantissa.log2 - 52) := by
    simp only [totalExponent]
    omega
  obtain ⟨em', hsecond, hem'⟩ := exists_shiftToTargetExponent (m := em.roundedMantissa)
    (e := totalExponent m e - 53) (by omega) (by omega) .exact
  have hne' : em'.mantissa ≠ 0 := by
    intro hzero
    simp [hzero] at hem'
  refine ⟨em'.mantissa, totalExponent em.roundedMantissa (totalExponent m e - 53) - 53,
    Nat.pos_of_ne_zero hne', ?_, hem', by omega, by omega⟩
  rw [roundWithAccuracy, hfirst]
  dsimp only
  rw [hsecond, dif_neg hne']

end Round

theorem roundWithAccuracy_cases (spec : Format) (sign : Sign) (m : Nat) (e : Int)
    (accuracy : Accuracy) :
    roundWithAccuracy spec sign m e accuracy = .zero sign ∨
      ∃ m' e' h, roundWithAccuracy spec sign m e accuracy = .finite sign m' e' h := by
  rw [roundWithAccuracy]
  dsimp only
  split
  · exact Or.inl rfl
  · rename_i hne
    exact Or.inr ⟨_, _, Nat.pos_of_ne_zero hne, rfl⟩

/-! ## Numbers with all bits in use -/

/-- A double with fifty-three bits in use, and with an exponent between two bounds. -/
def IsNormal (x : Float) (low high : Int) : Prop :=
  ∃ sign m e h, x.toModel.unpack = .finite sign m e h ∧ m.log2 = 52 ∧ low ≤ e ∧ e ≤ high

section Normal

variable {x y : Float} {a b c d low high : Int}

theorem IsNormal.isFinite (h : IsNormal x a b) : x.isFinite = true := by
  obtain ⟨sign, m, e, hpos, hunpack, -⟩ := h
  have hfinite : x.isFinite = x.toModel.unpack.isFinite := rfl
  rw [hfinite, hunpack, UnpackedFloat.isFinite]

theorem isNormal_of_round {sign : Sign} {m : Nat} {e : Int} {accuracy : Accuracy}
    (hx : x.toModel = pack (roundWithAccuracy .binary64 sign m e accuracy)) (hm : 52 ≤ m.log2)
    (hlow : low ≤ m.log2 + e - 52) (hhigh : m.log2 + e - 51 ≤ high) (hmin : -1074 ≤ low)
    (hmax : high ≤ 971) : IsNormal x low high := by
  have htotal : totalExponent m e = m.log2 + e + 1 := by
    rw [totalExponent]
    omega
  have hmin' : -1074 ≤ totalExponent m e - 53 := by omega
  obtain ⟨m', e', h, hround, hm', hle, hge⟩ := exists_roundWithAccuracy hm hmin' accuracy sign
  have hunpack := unpack_pack_of_log2 sign e' h hm' (by omega) (by omega)
  rw [hround] at hx
  rw [← hx] at hunpack
  exact ⟨sign, m', e', h, hunpack, hm', by omega, by omega⟩

theorem log2_eq_iff_of_pos {m n : Nat} (h : 0 < m) : m.log2 = n ↔ 2 ^ n ≤ m ∧ m < 2 ^ (n + 1) :=
  Nat.log2_eq_iff (Nat.ne_of_gt h)

theorem log2_mul {m n : Nat} (hm : m.log2 = 52) (hn : n.log2 = 52) (hmpos : 0 < m)
    (hnpos : 0 < n) : (m * n).log2 = 104 ∨ (m * n).log2 = 105 := by
  have hmul := Nat.mul_pos hmpos hnpos
  rw [log2_eq_iff_of_pos hmpos] at hm
  rw [log2_eq_iff_of_pos hnpos] at hn
  rw [log2_eq_iff_of_pos hmul, log2_eq_iff_of_pos hmul]
  have hle := Nat.mul_le_mul hm.1 hn.1
  have hlt := Nat.mul_lt_mul'' hm.2 hn.2
  omega

theorem log2_shiftLeft {m : Nat} (h : 0 < m) (k : Nat) : (m <<< k).log2 = m.log2 + k := by
  have hbounds := (log2_eq_iff_of_pos h).mp rfl
  have hpow := Nat.two_pow_pos k
  rw [Nat.shiftLeft_eq, log2_eq_iff_of_pos (Nat.mul_pos h hpow), Nat.pow_add,
    Nat.add_right_comm, Nat.pow_add]
  exact ⟨Nat.mul_le_mul_right _ hbounds.1, Nat.mul_lt_mul_of_pos_right hbounds.2 hpow⟩

theorem log2_shiftLeft_div {m n : Nat} (hm : m.log2 = 52) (hn : n.log2 = 52) (hmpos : 0 < m)
    (hnpos : 0 < n) : ((m <<< 53) / n).log2 = 52 ∨ ((m <<< 53) / n).log2 = 53 := by
  rw [log2_eq_iff_of_pos hmpos] at hm
  rw [log2_eq_iff_of_pos hnpos] at hn
  rw [Nat.shiftLeft_eq]
  have hle : 2 ^ 52 ≤ m * 2 ^ 53 / n := by
    rw [Nat.le_div_iff_mul_le hnpos]
    omega
  have hlt : m * 2 ^ 53 / n < 2 ^ 54 := by
    rw [Nat.div_lt_iff_lt_mul hnpos]
    omega
  have hdiv : 0 < m * 2 ^ 53 / n := by omega
  rw [log2_eq_iff_of_pos hdiv, log2_eq_iff_of_pos hdiv]
  omega

theorem IsNormal.mul (hx : IsNormal x a b) (hy : IsNormal y c d) (hmin : -1074 ≤ a + c + 52)
    (hmax : b + d + 54 ≤ 971) : IsNormal (x * y) (a + c + 52) (b + d + 54) := by
  obtain ⟨s, m, e, h, hunpack, hm, hle, hge⟩ := hx
  obtain ⟨s', m', e', h', hunpack', hm', hle', hge'⟩ := hy
  have hmodel : (x * y).toModel =
      pack (roundWithAccuracy .binary64 (s * s') (m * m') (e + e') .exact) := by
    change pack (UnpackedFloat.mul _ x.toModel.unpack y.toModel.unpack) = _
    rw [hunpack, hunpack', UnpackedFloat.mul]
  have hlog := log2_mul hm hm' h h'
  exact isNormal_of_round hmodel (by omega) (by omega) (by omega) hmin hmax

theorem IsNormal.div (hx : IsNormal x a b) (hy : IsNormal y c d) (hmin : -1074 ≤ a - d - 53)
    (hmax : b - c - 51 ≤ 971) : IsNormal (x / y) (a - d - 53) (b - c - 51) := by
  obtain ⟨s, m, e, h, hunpack, hm, hle, hge⟩ := hx
  obtain ⟨s', m', e', h', hunpack', hm', hle', hge'⟩ := hy
  have htarget : Format.binary64.targetExponent (totalExponent m e - totalExponent m' e') =
      e - e' - 53 := by
    rw [targetExponent_binary64]
    simp only [totalExponent]
    omega
  have hshift : (e - e' - (e - e' - 53)).toNat = 53 := by omega
  have hmodel : (x / y).toModel = pack (roundWithAccuracy .binary64 (s / s') ((m <<< 53) / m')
      (e - e' - 53) (accuracyOfFraction ((m <<< 53) % m') m')) := by
    change pack (UnpackedFloat.div _ x.toModel.unpack y.toModel.unpack) = _
    rw [hunpack, hunpack', UnpackedFloat.div, divCore, htarget, min_eq_right (by omega)]
    simp only [hshift]
  have hlog := log2_shiftLeft_div hm hm' h h'
  exact isNormal_of_round hmodel (by omega) (by omega) (by omega) hmin hmax

end Normal

theorem isNormal_powerOfTen_zero : IsNormal Float.exactlyRepresentablePowersOfTen[0] (-52) (-52) :=
  ⟨.positive, 2 ^ 52, -52, Nat.two_pow_pos 52, rfl, Nat.log2_two_pow, le_refl _, le_refl _⟩

theorem toModel_toFloat {n : Nat} (hpos : 0 < n) (hn : n < 2 ^ 53) :
    n.toUInt64.toFloat.toModel =
      pack (roundWithAccuracy .binary64 .positive (n <<< (52 - n.log2)) (n.log2 - 52) .exact) := by
  have hnat : n.toUInt64.toNat = n := by
    rw [Nat.toUInt64_eq, UInt64.toNat_ofNat']
    omega
  have hlog : n.log2 < 53 := (Nat.log2_lt (Nat.ne_of_gt hpos)).mpr hn
  have hcompare : compare (n : Int) 0 = .gt := Int.compare_eq_gt.mpr (by omega)
  have htarget : Format.binary64.targetExponent (totalExponent n 0) = n.log2 - 52 := by
    rw [targetExponent_binary64]
    simp only [totalExponent]
    omega
  have hshift : (0 - (n.log2 - 52 : Int)).toNat = 52 - n.log2 := by omega
  have hexponent : (0 - (52 - n.log2 : Nat) : Int) = n.log2 - 52 := by omega
  change pack (UnpackedFloat.ofUInt64 _ n.toUInt64) = _
  rw [UnpackedFloat.ofUInt64, hnat, UnpackedFloat.ofNat, UnpackedFloat.ofInt, UnpackedFloat.normalize,
    hcompare]
  dsimp only
  rw [Int.toNat_natCast, UnpackedFloat.round, htarget, decreaseExponent]
  simp only [hshift, hexponent]

theorem isNormal_toFloat {n : Nat} (hpos : 0 < n) (hn : n < 2 ^ 53) :
    IsNormal n.toUInt64.toFloat (-52) 1 := by
  have hlog : n.log2 < 53 := (Nat.log2_lt (Nat.ne_of_gt hpos)).mpr hn
  have hshift : (n <<< (52 - n.log2)).log2 = 52 := by
    rw [log2_shiftLeft hpos]
    omega
  exact isNormal_of_round (toModel_toFloat hpos hn) (by omega) (by omega) (by omega) (by omega)
    (by omega)

theorem ofNat_of_lt {n : Nat} (hn : n < 2 ^ 53) :
    Float.ofNat n = n.toUInt64.toFloat * Float.exactlyRepresentablePowersOfTen[0] := by
  change Float.ofScientific n false 0 = _
  rw [Float.ofScientific, dif_pos ⟨hn, by omega⟩]
  rfl

theorem toModel_ofNat {n : Nat} (hn : 2 ^ 53 ≤ n) :
    (Float.ofNat n).toModel =
      pack (roundWithAccuracy .binary64 .positive (n <<< 53) (-53) .exact) := by
  have hbits : Format.binary64.exponentBits = 11 := rfl
  have hmul : n <<< 53 * 10 ^ 0 = n <<< 53 := Nat.mul_one _
  change (Float.ofScientific n false 0).toModel = _
  rw [Float.ofScientific, dif_neg (by omega)]
  change pack (UnpackedFloat.ofScientific _ n 0) = _
  rw [UnpackedFloat.ofScientific, dif_neg (by omega), hbits, if_neg (by omega), if_neg (by omega),
    if_pos (by omega), ← hmul]
  rfl

/-- A positive number of at most sixty-four bits. -/
theorem isNormal_ofNat {n : Nat} (hpos : 0 < n) (hn : n < 2 ^ 64) :
    IsNormal (Float.ofNat n) (-52) 12 := by
  by_cases hsmall : n < 2 ^ 53
  · obtain ⟨sign, m, e, h, hunpack, hm, hlow, hhigh⟩ :=
      (isNormal_toFloat hpos hsmall).mul isNormal_powerOfTen_zero (by omega) (by omega)
    rw [ofNat_of_lt hsmall]
    exact ⟨sign, m, e, h, hunpack, hm, by omega, by omega⟩
  · have hlog := log2_shiftLeft hpos 53
    have hlt : n.log2 < 64 := (Nat.log2_lt (Nat.ne_of_gt hpos)).mpr hn
    have hge : 53 ≤ n.log2 := (Nat.le_log2 (Nat.ne_of_gt hpos)).mpr (not_lt.mp hsmall)
    exact isNormal_of_round (toModel_ofNat (not_lt.mp hsmall)) (by omega) (by omega) (by omega)
      (by omega) (by omega)

/-! ## Defined results -/

section Defined

variable {x y : Float}

theorem isNaN_eq (x : Float) : x.isNaN = x.toModel.unpack.isNaN := rfl

theorem isFinite_eq (x : Float) : x.isFinite = x.toModel.unpack.isFinite := rfl

theorem isNaN_round (spec : Format) (sign : Sign) (m : Nat) (e : Int) :
    (UnpackedFloat.round spec sign m e).isNaN = false := by
  rw [UnpackedFloat.round]
  dsimp only
  obtain hzero | ⟨m', e', h, hfinite⟩ := roundWithAccuracy_cases spec sign
    (decreaseExponent m e (spec.targetExponent (totalExponent m e))).1
    (decreaseExponent m e (spec.targetExponent (totalExponent m e))).2 .exact
  · rw [hzero]
    rfl
  · rw [hfinite]
    rfl

theorem isNaN_normalize (spec : Format) (m e : Int) (sign : Sign) :
    (UnpackedFloat.normalize spec m e sign).isNaN = false := by
  rw [UnpackedFloat.normalize]
  split
  · exact isNaN_round spec _ _ _
  · rfl
  · exact isNaN_round spec _ _ _

theorem unpack_of_isFinite (h : x.isFinite = true) :
    (∃ sign, x.toModel.unpack = .zero sign) ∨
      ∃ sign m e hpos, x.toModel.unpack = .finite sign m e hpos := by
  rw [isFinite_eq] at h
  cases hunpack : x.toModel.unpack with
  | notANumber => simp [hunpack, UnpackedFloat.isFinite] at h
  | infinity => simp [hunpack, UnpackedFloat.isFinite] at h
  | zero sign => exact Or.inl ⟨sign, rfl⟩
  | finite sign m e hpos => exact Or.inr ⟨sign, m, e, hpos, rfl⟩

theorem isNaN_of_isFinite (h : x.isFinite = true) : x.isNaN = false := by
  rw [isNaN_eq]
  obtain ⟨sign, hunpack⟩ | ⟨sign, m, e, hpos, hunpack⟩ := unpack_of_isFinite h <;>
    rw [hunpack] <;> rfl

theorem isNaN_sub (hx : x.isFinite = true) (hy : y.isFinite = true) : (x - y).isNaN = false := by
  refine isNaN_unpack_pack (u := UnpackedFloat.sub .binary64 x.toModel.unpack y.toModel.unpack) ?_
  obtain ⟨s, hunpack⟩ | ⟨s, m, e, hpos, hunpack⟩ := unpack_of_isFinite hx
  · obtain ⟨s', hunpack'⟩ | ⟨s', m', e', hpos', hunpack'⟩ := unpack_of_isFinite hy
    · obtain ⟨u, hzero⟩ := exists_zero_sub_zero .binary64 s s'
      rw [hunpack, hunpack', hzero]
      rfl
    · rw [hunpack, hunpack']
      rfl
  · obtain ⟨s', hunpack'⟩ | ⟨s', m', e', hpos', hunpack'⟩ := unpack_of_isFinite hy
    · rw [hunpack, hunpack']
      rfl
    · rw [hunpack, hunpack', UnpackedFloat.sub]
      exact isNaN_normalize _ _ _ _

theorem isNaN_abs (h : x.isNaN = false) : x.abs.isNaN = false := by
  rw [isNaN_eq] at h
  refine isNaN_unpack_pack ?_
  cases hunpack : x.toModel.unpack with
  | notANumber => simp [hunpack, UnpackedFloat.isNaN] at h
  | _ => rfl

/-- A finite number less itself. -/
theorem position_abs_sub_self (h : x.isFinite = true) : position? (x - x).abs = position? 0 := by
  have hsub : ∃ sign,
      UnpackedFloat.sub .binary64 x.toModel.unpack x.toModel.unpack = .zero sign := by
    obtain ⟨s, hunpack⟩ | ⟨s, m, e, hpos, hunpack⟩ := unpack_of_isFinite h
    · rw [hunpack]
      exact exists_zero_sub_zero _ s s
    · rw [hunpack, UnpackedFloat.sub]
      dsimp only
      rw [Int.sub_self]
      exact ⟨_, rfl⟩
  obtain ⟨sign, hsub⟩ := hsub
  change positionOf (pack (pack (UnpackedFloat.sub _ _ _)).unpack.abs).unpack = _
  rw [hsub]
  cases sign <;> rfl

theorem abs_sub_self_le (hx : x.isFinite = true) (hy : 0 ≤ y) : (x - x).abs ≤ y := by
  rw [le_iff_position, position_abs_sub_self hx, ← le_iff_position]
  exact hy

theorem le_of_not_lt (hx : x.isNaN = false) (hy : y.isNaN = false) (h : ¬x < y) : y ≤ x := by
  obtain ⟨p, hp⟩ := exists_position hx
  obtain ⟨q, hq⟩ := exists_position hy
  refine le_iff_position.mpr ⟨q, p, hq, hp, not_lt.mp fun hpq => h ?_⟩
  exact lt_iff_position.mpr ⟨p, q, hp, hq, hpq⟩

theorem position_negInfinity : position? (-1.0 / 0.0) = some (toLex (-2, toLex (0, 0))) := rfl

theorem lt_of_fst_lt {a a' : Int} {b b' : Int ×ₗ Int} (h : a < a') :
    toLex (a, b) < toLex (a', b') :=
  Prod.Lex.toLex_lt_toLex.mpr (Or.inl h)

theorem negInfinity_lt (hx : x.isNaN = false) (hne : x.toModel.unpack ≠ .infinity .negative) :
    -1.0 / 0.0 < x := by
  obtain ⟨p, hp⟩ := exists_position hx
  refine lt_iff_position.mpr ⟨_, p, position_negInfinity, hp, ?_⟩
  rw [position?] at hp
  rcases hunpack : x.toModel.unpack with (_ | _) | _ | _ | ⟨_ | _, m, e, hpos⟩ <;>
    rw [hunpack] at hp hne <;> cases hp
  · exact absurd rfl hne
  all_goals exact lt_of_fst_lt (by decide)

theorem negInfinity_lt_of_isFinite (h : x.isFinite = true) : -1.0 / 0.0 < x := by
  refine negInfinity_lt (isNaN_of_isFinite h) fun hunpack => ?_
  rw [isFinite_eq, hunpack] at h
  cases h

/-- A natural number may be too large for a double, but is not below zero. -/
theorem negInfinity_lt_ofNat (n : Nat) : -1.0 / 0.0 < Float.ofNat n := by
  obtain hlt | hle := Nat.lt_or_ge n (2 ^ 53)
  · obtain rfl | hpos := Nat.eq_zero_or_pos n
    · exact negInfinity_lt_of_isFinite rfl
    · exact negInfinity_lt_of_isFinite (isNormal_ofNat hpos (by omega)).isFinite
  · have hmodel := toModel_ofNat hle
    obtain hround | ⟨m, e, hpos, hround⟩ :=
      roundWithAccuracy_cases .binary64 .positive (n <<< 53) (-53) .exact
    · rw [hround] at hmodel
      refine negInfinity_lt (by rw [isNaN_eq, hmodel]; rfl) ?_
      rw [hmodel]
      exact UnpackedFloat.noConfusion
    · rw [hround] at hmodel
      refine negInfinity_lt (by rw [isNaN_eq, hmodel]; exact isNaN_unpack_pack rfl) ?_
      rw [hmodel]
      obtain hunpack | hunpack | ⟨m', e', hpos', hunpack⟩ :=
        unpack_pack_finite .positive e hpos <;>
        rw [hunpack] <;> simp

theorem isFinite_ofNat_div {m n : Nat} (hm : m < 2 ^ 64) (hpos : 0 < n) (hn : n < 2 ^ 64) :
    (Float.ofNat m / Float.ofNat n).isFinite = true := by
  have hnormal := isNormal_ofNat hpos hn
  obtain rfl | hmpos := Nat.eq_zero_or_pos m
  · obtain ⟨sign, m, e, h, hunpack, -⟩ := hnormal
    have hzero : (Float.ofNat 0).toModel.unpack = .zero .positive := rfl
    change (pack (UnpackedFloat.div .binary64 _ _)).unpack.isFinite = true
    rw [hzero, hunpack, UnpackedFloat.div]
    cases sign <;> rfl
  · exact ((isNormal_ofNat hmpos hm).div hnormal (by omega) (by omega)).isFinite

end Defined

end GpuCluster.Number
