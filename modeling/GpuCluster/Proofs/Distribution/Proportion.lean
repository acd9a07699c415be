import Mathlib
import GpuCluster.Proofs.Distribution.Partition

/-!
# A split by capacity is proportional

Where no sum and no product overflows, the computed share of a device is off from the exact one by a small
part of it. As long as these errors stay below one item in all, no share is cut short, and the heaviest
device makes up for less than one item per device.
-/

namespace GpuCluster.Distribution

open Number Scalar

/-! ## Error bounds -/

section Errors

variable {u : ℚ}

theorem abs_sub_add_le {V S w s j : ℚ} (hu : 0 ≤ u) (hj : 0 ≤ j) (hju : 2 * j * u ≤ 1) (hS : 0 ≤ S)
    (hw : 0 ≤ w) (hV : |V - S| ≤ 2 * j * u * S) (hs : |s - (V + w)| ≤ u * (V + w)) :
    |s - (S + w)| ≤ 2 * (j + 1) * u * (S + w) := by
  have hup := (abs_le.mp hV).2
  have hdouble : V ≤ 2 * S := by
    have hle := mul_le_mul_of_nonneg_right hju hS
    linarith
  have hscaled := mul_le_mul_of_nonneg_left hdouble hu
  have hterm : 0 ≤ (2 * j + 1) * u * w := by positivity
  calc
    |s - (S + w)| = |(s - (V + w)) + (V - S)| := by ring_nf
    _ ≤ |s - (V + w)| + |V - S| := abs_add_le _ _
    _ ≤ u * (V + w) + 2 * j * u * S := add_le_add hs hV
    _ ≤ 2 * (j + 1) * u * (S + w) := by linarith

section Quotient

variable {a Q r : ℚ} (hu : 0 ≤ u) (hua : 2 * u ≤ a) (ha : a ≤ 1 / 8) (hQ : 0 ≤ Q)

include hu hua ha hQ

theorem add_mul_le_of_quotient (h : r * (1 - a) ≤ (1 + u) * Q) : (1 + u) * r ≤ (1 + 4 * a) * Q := by
  have hfactor : (1 + u) * (1 + u) ≤ (1 - a) * (1 + 4 * a) := by nlinarith
  have hpos : 0 < 1 - a := by linarith
  apply le_of_mul_le_mul_left _ hpos
  calc
    (1 - a) * ((1 + u) * r) = (1 + u) * (r * (1 - a)) := by ring
    _ ≤ (1 + u) * ((1 + u) * Q) := mul_le_mul_of_nonneg_left h (by linarith)
    _ = (1 + u) * (1 + u) * Q := by ring
    _ ≤ (1 - a) * (1 + 4 * a) * Q := mul_le_mul_of_nonneg_right hfactor hQ
    _ = (1 - a) * ((1 + 4 * a) * Q) := by ring

theorem sub_mul_le_of_quotient (h : (1 - u) * Q ≤ r * (1 + a)) : (1 - 4 * a) * Q ≤ (1 - u) * r := by
  have hfactor : (1 + a) * (1 - 4 * a) ≤ (1 - u) * (1 - u) := by nlinarith
  have hpos : 0 < 1 + a := by linarith
  apply le_of_mul_le_mul_left _ hpos
  calc
    (1 + a) * ((1 - 4 * a) * Q) = (1 + a) * (1 - 4 * a) * Q := by ring
    _ ≤ (1 - u) * (1 - u) * Q := mul_le_mul_of_nonneg_right hfactor hQ
    _ = (1 - u) * ((1 - u) * Q) := by ring
    _ ≤ (1 - u) * (r * (1 + a)) := mul_le_mul_of_nonneg_left h (by linarith)
    _ = (1 + a) * ((1 - u) * r) := by ring

end Quotient

theorem abs_quotient_sub_le {a d P W p T q : ℚ} (hu : 0 ≤ u) (hua : 2 * u ≤ a) (ha : a ≤ 1 / 8)
    (hP : 0 ≤ P) (hW : 0 < W) (hT : |T - W| ≤ a * W) (hp : |p - P| ≤ u * P)
    (hq : |q - p / T| ≤ u * (p / T) + d) : |q - P / W| ≤ 4 * a * (P / W) + d := by
  obtain ⟨hTlow, hTup⟩ := abs_le.mp hT
  obtain ⟨hplow, hpup⟩ := abs_le.mp hp
  obtain ⟨hqlow, hqup⟩ := abs_le.mp hq
  have haW := mul_le_mul_of_nonneg_right ha hW.le
  have huP := mul_le_mul_of_nonneg_right (by linarith : u ≤ 1 / 16) hP
  have hTpos : 0 < T := by linarith
  have hQ : 0 ≤ P / W := div_nonneg hP hW.le
  have hr : 0 ≤ p / T := div_nonneg (by linarith) hTpos.le
  have hPeq : P / W * W = P := div_mul_cancel₀ P hW.ne'
  have hpeq : p / T * T = p := div_mul_cancel₀ p hTpos.ne'
  have hup : p / T * (1 - a) ≤ (1 + u) * (P / W) := by
    apply le_of_mul_le_mul_right _ hW
    calc
      p / T * (1 - a) * W = p / T * ((1 - a) * W) := mul_assoc ..
      _ ≤ p / T * T := mul_le_mul_of_nonneg_left (by linarith) hr
      _ ≤ (1 + u) * P := by linarith
      _ = (1 + u) * (P / W) * W := by rw [mul_assoc, hPeq]
  have hlow : (1 - u) * (P / W) ≤ p / T * (1 + a) := by
    apply le_of_mul_le_mul_right _ hW
    calc
      (1 - u) * (P / W) * W = (1 - u) * P := by rw [mul_assoc, hPeq]
      _ ≤ p / T * T := by linarith
      _ ≤ p / T * ((1 + a) * W) := mul_le_mul_of_nonneg_left (by linarith) hr
      _ = p / T * (1 + a) * W := (mul_assoc ..).symm
  have hup := add_mul_le_of_quotient hu hua ha hQ hup
  have hlow := sub_mul_le_of_quotient hu hua ha hQ hlow
  rw [abs_le]
  constructor <;> linarith

end Errors

/-! ## The computed total -/

def exactTotal (weights : List Float) : ℚ := (weights.map exact).sum

section Total

variable {weights : List Float}

theorem foldl_of_infinite (h : ∀ w ∈ weights, IsWeight w) {x : Float}
    (hx : x.toModel.unpack = .infinity .positive) :
    (weights.foldl (· + ·) x).toModel.unpack = .infinity .positive := by
  induction weights generalizing x with
  | nil => exact hx
  | cons w weights ih =>
    rw [List.forall_mem_cons] at h
    exact ih h.2 (unpack_add_of_infinite hx h.1.isAmount)

theorem exists_near_foldl (h : ∀ w ∈ weights, IsWeight w) {x : Float} {V S : ℚ} {j : Nat}
    (hx : IsAmount x V) (hS : 0 ≤ S) (hV : |V - S| ≤ 2 * j * 2 ^ (-52 : Int) * S)
    (hsize : 2 * (j + weights.length : ℚ) * 2 ^ (-52 : Int) ≤ 1)
    (hfinite : (weights.foldl (· + ·) x).isFinite = true) :
    ∃ T, IsAmount (weights.foldl (· + ·) x) T ∧
      |T - (S + exactTotal weights)| ≤
        2 * (j + weights.length : ℚ) * 2 ^ (-52 : Int) * (S + exactTotal weights) := by
  induction weights generalizing x V S j with
  | nil => exact ⟨V, hx, by simpa [exactTotal] using hV⟩
  | cons w weights ih =>
    rw [List.forall_mem_cons] at h
    have hw := Amounts.nonneg h.1.isAmount
    rcases hx.add h.1.isAmount with ⟨s, hs, hnear⟩ | ⟨hinfinite, -⟩
    · have hu : (0 : ℚ) ≤ 2 ^ (-52 : Int) := by positivity
      have hju : 2 * j * 2 ^ (-52 : Int) ≤ (1 : ℚ) := by
        refine le_trans ?_ hsize
        gcongr
        exact le_add_of_nonneg_right (Nat.cast_nonneg _)
      have hstep := abs_sub_add_le hu (Nat.cast_nonneg j) hju hS hw hV hnear
      have hlength : ((j + 1 : Nat) + weights.length : ℚ) = j + (w :: weights).length := by
        rw [List.length_cons]
        push_cast
        ring
      obtain ⟨T, hT, hnear⟩ := ih h.2 (j := j + 1) hs (add_nonneg hS hw) (by exact_mod_cast hstep)
        (by rw [hlength]; exact hsize) hfinite
      rw [hlength, add_assoc] at hnear
      exact ⟨T, hT, hnear⟩
    -- A partial sum that overflows stays infinite to the end.
    · have hlast := foldl_of_infinite h.2 hinfinite
      rw [List.foldl_cons, isFinite_eq, hlast] at hfinite
      cases hfinite

theorem exists_near_totalCapacity (h : ∀ w ∈ weights, IsWeight w)
    (hsize : 2 * (weights.length : ℚ) * 2 ^ (-52 : Int) ≤ 1)
    (hfinite : (totalCapacity weights).isFinite = true) :
    ∃ T, IsAmount (totalCapacity weights) T ∧
      |T - exactTotal weights| ≤ 2 * weights.length * 2 ^ (-52 : Int) * exactTotal weights := by
  have hzero : IsAmount (-ofNat 0) 0 := .zero .negative
  have hnear := exists_near_foldl h (S := 0) (j := 0) hzero le_rfl (by simp) (by simpa using hsize)
    hfinite
  simpa [totalCapacity] using hnear

theorem exact_nonneg (h : ∀ w ∈ weights, IsWeight w) : ∀ w ∈ weights, 0 ≤ exact w :=
  fun w hw => Amounts.nonneg (h w hw).isAmount

theorem exact_le_exactTotal (h : ∀ w ∈ weights, IsWeight w) {w : Float} (hw : w ∈ weights) :
    exact w ≤ exactTotal weights :=
  List.single_le_sum (List.forall_mem_map.mpr (exact_nonneg h)) _ (List.mem_map_of_mem hw)

theorem exactTotal_pos (h : ∀ w ∈ weights, IsWeight w) (hpos : ∃ w ∈ weights, 0 < w) :
    0 < exactTotal weights := by
  obtain ⟨w, hw, hpos⟩ := hpos
  exact ((h w hw).isAmount.pos_iff.mp hpos).trans_le (exact_le_exactTotal h hw)

end Total

/-! ## The computed share -/

/-- What is due to a device with a certain capacity. -/
def exactShare (items : Nat) (weights : List Float) (w : Float) : ℚ :=
  items * exact w / exactTotal weights

section Share

variable {items : Nat} {total w : Float} {T W a : ℚ}

theorem exists_near_quotient (hitems : items < 2 ^ 53) (hw : IsWeight w) (hle : exact w ≤ W)
    (hW : 0 < W) (ha : 2 * 2 ^ (-52 : Int) ≤ a) (ha' : a ≤ 1 / 8) (htotal : IsAmount total T)
    (hT : |T - W| ≤ a * W) (hproduct : (Float.ofNat items * w).isFinite = true) :
    ∃ q, IsAmount (Float.ofNat items * w / total) q ∧
      |q - items * exact w / W| ≤ 4 * a * (items * exact w / W) + 2 ^ (-1074 : Int) := by
  obtain ⟨p, hp, hnear⟩ := (isAmount_ofNat hitems).exists_mul hw.isAmount hproduct
  have hP : 0 ≤ items * exact w := mul_nonneg (Nat.cast_nonneg _) (Amounts.nonneg hw.isAmount)
  have hlow : W ≤ 2 * T := by
    have hlow := (abs_le.mp hT).1
    have haW := mul_le_mul_of_nonneg_right ha' hW.le
    linarith
  have hTpos : 0 < T := by linarith
  have hbound : p / T ≤ 2 ^ 64 := by
    have hup := (abs_le.mp hnear).2
    have hsmall : 2 ^ (-52 : Int) * (items * exact w) ≤ items * exact w :=
      mul_le_of_le_one_left hP (zpow_le_one_of_nonpos₀ one_le_two (by norm_num))
    have hitems' : (items : ℚ) ≤ 2 ^ 53 := by exact_mod_cast hitems.le
    have hproduct : items * exact w ≤ 2 ^ 53 * W :=
      mul_le_mul hitems' hle (Amounts.nonneg hw.isAmount) (by positivity)
    rw [div_le_iff₀ hTpos]
    linarith
  obtain ⟨q, hq, hquotient⟩ := hp.exists_div htotal hTpos hbound
  exact ⟨q, hq, abs_quotient_sub_le (by positivity) ha ha' hP hW hT hnear hquotient⟩

theorem near_share (hitems : items < 2 ^ 53) (hw : IsWeight w) (hle : exact w ≤ W)
    (hW : 0 < W) (ha : 2 * 2 ^ (-52 : Int) ≤ a) (ha' : a ≤ 1 / 8) (htotal : IsAmount total T)
    (hT : |T - W| ≤ a * W) (hproduct : (Float.ofNat items * w).isFinite = true) :
    share items w total ≤
        items * exact w / W + (4 * a * (items * exact w / W) + 2 ^ (-1074 : Int)) ∧
      items * exact w / W ≤
        share items w total + 1 + (4 * a * (items * exact w / W) + 2 ^ (-1074 : Int)) := by
  obtain ⟨q, hq, hnear⟩ := exists_near_quotient hitems hw hle hW ha ha' htotal hT hproduct
  obtain ⟨hlow, hup⟩ := abs_le.mp hnear
  have hQ : 0 ≤ items * exact w / W :=
    div_nonneg (mul_nonneg (Nat.cast_nonneg _) (Amounts.nonneg hw.isAmount)) hW.le
  have hQle : items * exact w / W ≤ 2 ^ 53 := by
    have hitems' : (items : ℚ) ≤ 2 ^ 53 := by exact_mod_cast hitems.le
    rw [div_le_iff₀ hW]
    exact mul_le_mul hitems' hle (Amounts.nonneg hw.isAmount) (by positivity)
  have hgrid : (2 : ℚ) ^ (-1074 : Int) ≤ 1 := zpow_le_one_of_nonpos₀ one_le_two (by norm_num)
  have haQ := mul_le_mul_of_nonneg_right ha' hQ
  have hlt : ⌊q⌋₊ < 2 ^ 64 := by
    rw [Nat.floor_lt (Amounts.nonneg hq)]
    push_cast
    linarith
  have hshare : share items w total = ⌊q⌋₊ := by
    have hmin : min ⌊q⌋₊ (2 ^ 64 - 1) = ⌊q⌋₊ := min_eq_left (Nat.le_pred_of_lt hlt)
    exact hq.floor_eq.trans hmin
  have hfloor := Nat.floor_le (Amounts.nonneg hq)
  have hceil := Nat.lt_floor_add_one q
  rw [hshare]
  constructor <;> linarith

end Share

/-! ## The computed counts -/

section Rest

variable {α : Type} {f g : α → ℚ} {l : List α}

theorem sum_sub_le_sum_sub (h : ∀ a ∈ l, f a ≤ g a) {a : α} (ha : a ∈ l) :
    (l.map f).sum - f a ≤ (l.map g).sum - g a := by
  induction l with
  | nil => cases ha
  | cons b l ih =>
    rw [List.forall_mem_cons] at h
    rw [List.map_cons, List.map_cons, List.sum_cons, List.sum_cons]
    rcases List.mem_cons.mp ha with rfl | ha
    · have hsum := List.sum_le_sum h.2
      linarith
    · have hrest := ih h.2 ha
      linarith [h.1]

theorem cast_total (f : α → Nat) (l : List α) :
    (Number.total (l.map f) : ℚ) = (l.map fun a => (f a : ℚ)).sum := by
  induction l with
  | nil => rfl
  | cons a l ih => rw [List.map_cons, Number.total_cons, Nat.cast_add, ih, List.map_cons, List.sum_cons]

end Rest

theorem shares_eq_map {items : Nat} {total : Float} {weights : List Float} {assigned : Nat}
    (h : assigned + Number.total (weights.map fun w => share items w total) ≤ items) :
    shares items total weights assigned = weights.map fun w => share items w total := by
  induction weights generalizing assigned with
  | nil => rfl
  | cons w weights ih =>
    rw [List.map_cons, Number.total_cons] at h
    have hmin : min (share items w total) (items - assigned) = share items w total := by omega
    rw [shares, hmin, ih (by omega)]
    rfl

/-- The weights are valid, not all zero and few enough, and nothing overflows. -/
structure Manageable (items : Nat) (weights : List Float) : Prop where
  valid : ∀ w ∈ weights, IsWeight w
  positive : ∃ w ∈ weights, 0 < w
  total : (totalCapacity weights).isFinite = true
  products : ∀ w ∈ weights, (Float.ofNat items * w).isFinite = true
  size : (items + 1) * weights.length ≤ 2 ^ 48

section Manageable

variable {items : Nat} {weights : List Float}

/-- How far a computed share may be off before it is rounded down. -/
def shareError (items : Nat) (weights : List Float) (w : Float) : ℚ :=
  8 * weights.length * 2 ^ (-52 : Int) * exactShare items weights w + 2 ^ (-1074 : Int)

variable (h : Manageable items weights)

include h

theorem Manageable.length_pos : 0 < weights.length := by
  obtain ⟨w, hw, -⟩ := h.positive
  exact List.length_pos_of_mem hw

theorem Manageable.length_le : weights.length ≤ 2 ^ 48 :=
  (Nat.le_mul_of_pos_left _ (Nat.succ_pos items)).trans h.size

theorem Manageable.exactTotal_pos : 0 < exactTotal weights :=
  Distribution.exactTotal_pos h.valid h.positive

theorem Manageable.near_share {w : Float} (hw : w ∈ weights) :
    share items w (totalCapacity weights) ≤
        exactShare items weights w + shareError items weights w ∧
      exactShare items weights w ≤
        share items w (totalCapacity weights) + 1 + shareError items weights w := by
  have hone : (1 : ℚ) ≤ weights.length := Nat.one_le_cast.mpr h.length_pos
  have hlength : (weights.length : ℚ) ≤ 2 ^ 48 := by exact_mod_cast h.length_le
  have hitems : items < 2 ^ 53 := by
    have hsize := (Nat.le_mul_of_pos_right (items + 1) h.length_pos).trans h.size
    omega
  have hu : (2 : ℚ) ^ (-52 : Int) = 1 / 2 ^ 52 := by norm_num
  obtain ⟨T, hT, hnear⟩ := exists_near_totalCapacity h.valid (by rw [hu]; linarith) h.total
  have hshare := Distribution.near_share hitems (h.valid w hw) (exact_le_exactTotal h.valid hw)
    h.exactTotal_pos (by rw [hu]; linarith) (by rw [hu]; linarith) hT hnear (h.products w hw)
  have herror : shareError items weights w =
      4 * (2 * weights.length * 2 ^ (-52 : Int)) * (items * exact w / exactTotal weights) +
        2 ^ (-1074 : Int) := by
    rw [shareError, exactShare]
    ring
  rw [herror]
  exact hshare

theorem Manageable.sum_exactShare : (weights.map (exactShare items weights)).sum = items := by
  have hmap : weights.map (exactShare items weights) =
      weights.map fun w => items / exactTotal weights * exact w := by
    refine List.map_congr_left fun w _ => ?_
    rw [exactShare, div_mul_eq_mul_div]
  rw [hmap, List.sum_map_mul_left]
  exact div_mul_cancel₀ _ h.exactTotal_pos.ne'

theorem Manageable.sum_shareError_lt : (weights.map (shareError items weights)).sum < 1 := by
  have hsum : (weights.map (shareError items weights)).sum =
      8 * weights.length * 2 ^ (-52 : Int) * items + weights.length * 2 ^ (-1074 : Int) := by
    change (weights.map fun w => _ * exactShare items weights w + _).sum = _
    rw [List.sum_map_add, List.sum_map_mul_left, h.sum_exactShare, List.map_const', List.sum_replicate,
      nsmul_eq_mul]
  have hsize : ((items + 1) * weights.length : ℚ) ≤ 2 ^ 48 := by exact_mod_cast h.size
  have hgrid : (2 : ℚ) ^ (-1074 : Int) ≤ 2 ^ (-50 : Int) :=
    zpow_le_zpow_right₀ one_le_two (by norm_num)
  have hgrids := mul_le_mul_of_nonneg_left hgrid (Nat.cast_nonneg (α := ℚ) weights.length)
  have hu : (2 : ℚ) ^ (-52 : Int) = 1 / 2 ^ 52 := by norm_num
  have hu' : (2 : ℚ) ^ (-50 : Int) = 1 / 2 ^ 50 := by norm_num
  rw [hu'] at hgrids
  rw [hsum, hu]
  have hpos : (0 : ℚ) < weights.length := Nat.cast_pos.mpr h.length_pos
  linarith

theorem Manageable.shareError_nonneg {w : Float} (hw : w ∈ weights) :
    0 ≤ shareError items weights w := by
  have hshare : 0 ≤ exactShare items weights w :=
    div_nonneg (mul_nonneg (Nat.cast_nonneg _) (exact_nonneg h.valid w hw)) h.exactTotal_pos.le
  rw [shareError]
  positivity

theorem Manageable.shareError_lt {w : Float} (hw : w ∈ weights) : shareError items weights w < 1 := by
  have hnonneg : ∀ e ∈ weights.map (shareError items weights), 0 ≤ e :=
    List.forall_mem_map.mpr fun w hw => h.shareError_nonneg hw
  exact (List.single_le_sum hnonneg _ (List.mem_map_of_mem hw)).trans_lt h.sum_shareError_lt

theorem Manageable.total_share_le :
    Number.total (weights.map fun w => share items w (totalCapacity weights)) ≤ items := by
  have hsum := List.sum_le_sum fun w hw => (h.near_share (w := w) hw).1
  rw [← cast_total, List.sum_map_add, h.sum_exactShare] at hsum
  have herror := h.sum_shareError_lt
  have hlt : (Number.total (weights.map fun w => share items w (totalCapacity weights)) : ℚ) <
      (items + 1 : Nat) := by
    push_cast
    linarith
  exact Nat.lt_succ_iff.mp (Nat.cast_lt.mp hlt)

theorem Manageable.count_eq {i c : Nat} {w : Float} (hw : weights[i]? = some w)
    (hc : (capacityCounts items weights)[i]? = some c) :
    c = share items w (totalCapacity weights) + if heaviest weights = i then
      items - Number.total (weights.map fun w => share items w (totalCapacity weights)) else 0 := by
  have hle := h.total_share_le
  rw [capacityCounts, shares_eq_map (by rwa [Nat.zero_add]), List.getElem?_modify, List.getElem?_map,
    hw] at hc
  rw [← Option.some.inj hc]
  split <;> rfl

/-- The others take their shares up to one item, so that the remainder is small. -/
theorem Manageable.abs_rest_lt {w : Float} (hw : w ∈ weights) :
    |share items w (totalCapacity weights) + (items -
      (weights.map fun w => (share items w (totalCapacity weights) : ℚ)).sum) -
      exactShare items weights w| < weights.length := by
  -- Only the shares of the others are rounded down at the expense of this device.
  have hlow := sum_sub_le_sum_sub (fun w hw => (h.near_share hw).1) hw
  have hup := sum_sub_le_sum_sub (fun w hw => (h.near_share hw).2) hw
  have herror := h.sum_shareError_lt
  have hnonneg := h.shareError_nonneg hw
  have hone : (1 : ℚ) ≤ weights.length := Nat.one_le_cast.mpr h.length_pos
  rw [List.sum_map_add, h.sum_exactShare] at hlow
  rw [List.sum_map_add, List.sum_map_add, h.sum_exactShare, List.map_const', List.sum_replicate,
    nsmul_one] at hup
  rw [abs_lt]
  constructor <;> linarith

theorem Manageable.abs_count_sub_lt {i c : Nat} {w : Float} (hw : weights[i]? = some w)
    (hc : (capacityCounts items weights)[i]? = some c) :
    |c - exactShare items weights w| < weights.length := by
  have hmem := List.mem_of_getElem? hw
  have hcount := h.count_eq hw hc
  split at hcount
  · have hrest := h.abs_rest_lt hmem
    rw [← cast_total, ← Nat.cast_sub h.total_share_le, ← Nat.cast_add, ← hcount] at hrest
    exact hrest
  · obtain ⟨hlow, hup⟩ := h.near_share hmem
    have herror := h.shareError_lt hmem
    -- The heaviest device is another one.
    have htwo : (2 : ℚ) ≤ weights.length := by
      obtain ⟨x, hx, -⟩ := exists_heaviest (List.ne_nil_of_mem hmem)
      obtain ⟨hi, -⟩ := List.getElem?_eq_some_iff.mp hw
      obtain ⟨hj, -⟩ := List.getElem?_eq_some_iff.mp hx
      exact_mod_cast (by omega : 2 ≤ weights.length)
    rw [hcount, Nat.add_zero, abs_lt]
    constructor <;> linarith

end Manageable

/-! ## Proportional parts -/

section Proportional

variable {τ : Type}

/-- Every part is off from what is due by less than the number of devices, so that parts for the same
capacity are less than twice as far apart. -/
structure IsProportional (weights : Table DeviceId Float) (items : List τ)
    (parts : Table DeviceId (List τ)) : Prop where
  near : ∀ id w part, weights.get? id = some w → parts.get? id = some part →
    |part.length - exactShare items.length weights.values w| < weights.size
  alike : ∀ id id' w w' part part', weights.get? id = some w → weights.get? id' = some w' →
    exact w = exact w' → parts.get? id = some part → parts.get? id' = some part' →
      |(part.length : ℚ) - part'.length| < 2 * weights.size

theorem isProportional_of_near {weights : Table DeviceId Float} {items : List τ}
    {parts : Table DeviceId (List τ)}
    (h : ∀ id w part, weights.get? id = some w → parts.get? id = some part →
      |part.length - exactShare items.length weights.values w| < weights.size) :
    IsProportional weights items parts where
  near := h
  alike id id' w w' part part' hw hw' heq hpart hpart' := by
    have hnear := h id w part hw hpart
    have hnear' := h id' w' part' hw' hpart'
    rw [exactShare, ← heq, ← exactShare] at hnear'
    rw [abs_lt] at hnear hnear' ⊢
    constructor <;> linarith

variable {weights : Table DeviceId Float} {items : List τ}

theorem byCapacity_none (h : ∀ w ∈ weights.values, IsWeight w) (hpos : ∃ w ∈ weights.values, 0 < w) :
    byCapacity none weights items =
      .ok (assign weights.keys (capacityCounts items.length weights.values) items) := by
  rw [byCapacity_of_pos none h hpos, capped, map_count_capacityHoldings]
  rfl

/-- A split by capacity without overflow is proportional. -/
theorem byCapacity_proportional (h : Manageable items.length weights.values) :
    ∃ parts, byCapacity none weights items = .ok parts ∧ parts.keys = weights.keys ∧
      IsProportional weights items parts := by
  have hlength : (capacityCounts items.length weights.values).length = weights.keys.length := by
    rw [length_capacityCounts, Table.values, Table.keys, List.length_map, List.length_map]
  have htotal := total_capacityCounts items.length (List.ne_nil_of_length_pos h.length_pos)
  refine ⟨_, byCapacity_none h.valid h.positive, keys_assign weights.keys_sorted hlength, ?_⟩
  apply isProportional_of_near
  intro id w part hw hpart
  obtain ⟨i, hkey, hvalue⟩ := Table.exists_getElem?_of_get? hw
  obtain ⟨hi, -⟩ := List.getElem?_eq_some_iff.mp hkey
  have hc := List.getElem?_eq_getElem (hlength.symm ▸ hi)
  obtain ⟨part', hpart', hcount⟩ :=
    exists_get?_assign weights.nodup_keys hlength htotal hkey hc
  obtain rfl := Option.some.inj (hpart.symm.trans hpart')
  have hnear := h.abs_count_sub_lt hvalue hc
  rw [← hcount, Table.values, List.length_map] at hnear
  exact hnear

end Proportional

/-! ## Overflow -/

def lightAndHeavy : Table DeviceId Float := .ofList [("a", 1.0), ("b", 2.0)]

theorem manageable_lightAndHeavy : Manageable 5 lightAndHeavy.values where
  valid := by decide +kernel
  positive := ⟨1.0, List.mem_cons_self, by decide +kernel⟩
  total := by decide +kernel
  products := by decide +kernel
  size := by decide +kernel

theorem byCapacity_proportional_lightAndHeavy :
    Manageable 5 lightAndHeavy.values ∧
      ∃ parts, byCapacity none lightAndHeavy [0, 1, 2, 3, 4] = .ok parts ∧
        parts.keys = lightAndHeavy.keys ∧ IsProportional lightAndHeavy [0, 1, 2, 3, 4] parts :=
  ⟨manageable_lightAndHeavy, byCapacity_proportional manageable_lightAndHeavy⟩

/-- Two devices of the same capacity, so large that the sum and the multiples overflow. -/
def huge : Table DeviceId Float := .ofList [("a", 1e308), ("b", 1e308)]

theorem exactShare_huge : exactShare 4 huge.values 1e308 = 2 := by
  have hpos : 0 < exact 1e308 :=
    (isAmount_exact (by decide +kernel) (by decide +kernel)).pos_iff.mp (by decide +kernel)
  have htotal : exactTotal huge.values = exact 1e308 + (exact 1e308 + 0) := rfl
  rw [exactShare, htotal, div_eq_iff (by linarith)]
  push_cast
  ring

/-- Here the first device receives all items. -/
theorem huge_not_proportional :
    (∀ w ∈ huge.values, IsWeight w) ∧ (∃ w ∈ huge.values, 0 < w) ∧
      ∃ parts, byCapacity none huge [0, 1, 2, 3] = .ok parts ∧
        ¬IsProportional huge [0, 1, 2, 3] parts := by
  have hvalid : ∀ w ∈ huge.values, IsWeight w := by decide +kernel
  have hpos : ∃ w ∈ huge.values, 0 < w := ⟨1e308, List.mem_cons_self, by decide +kernel⟩
  have hcounts : capacityCounts 4 huge.values = [4, 0] := by decide +kernel
  have hfirst : (assign huge.keys [4, 0] [0, 1, 2, 3]).get? "a" = some [0, 1, 2, 3] := by
    decide +kernel
  refine ⟨hvalid, hpos, _, byCapacity_none hvalid hpos, fun h => ?_⟩
  have hnear := h.near "a" 1e308 [0, 1, 2, 3] rfl (hcounts ▸ hfirst)
  change |((4 : Nat) : ℚ) - exactShare 4 huge.values 1e308| < (2 : Nat) at hnear
  rw [exactShare_huge] at hnear
  norm_num at hnear

end GpuCluster.Distribution
