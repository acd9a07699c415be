import Mathlib
import GpuCluster.Error
import GpuCluster.Proofs.Distribution.Cap
import GpuCluster.Proofs.Number.Amount
import GpuCluster.Proofs.Table

/-!
# A split by capacity is a partition

However the shares are rounded, and even where they overflow or are undefined, the counts sum up to the
number of items: no share takes more than what is left, and the heaviest device takes the remainder.
-/

namespace GpuCluster.Distribution

open Number Scalar

/-! ## Runs -/

section Runs

variable {τ : Type}

theorem map_length_runs {lengths : List Nat} {items : List τ}
    (h : Number.total lengths ≤ items.length) :
    (runs lengths items).map List.length = lengths := by
  induction lengths generalizing items with
  | nil => rfl
  | cons n rest ih =>
    rw [Number.total_cons] at h
    rw [runs, List.map_cons, List.length_take, ih, min_eq_left]
    · omega
    · rw [List.length_drop]
      omega

end Runs

/-! ## Weights -/

/-- A capacity that is not refused. -/
def IsWeight (x : Float) : Prop := x.isFinite = true ∧ ¬x < 0

instance : DecidablePred IsWeight := fun x => inferInstanceAs (Decidable (x.isFinite = true ∧ ¬x < 0))

theorem IsWeight.isAmount {x : Float} (h : IsWeight x) : IsAmount x (exact x) :=
  isAmount_exact h.1 h.2

theorem isSum_foldl {weights : List Float} (h : ∀ w ∈ weights, IsWeight w) {x : Float}
    (hx : IsSum x) :
    IsSum (weights.foldl (· + ·) x) ∧
      (0 < weights.foldl (· + ·) x ↔ 0 < x ∨ ∃ w ∈ weights, 0 < w) := by
  induction weights generalizing x with
  | nil => simp [hx]
  | cons w weights ih =>
    rw [List.forall_mem_cons] at h
    obtain ⟨hsum, hpos⟩ := hx.add h.1.isAmount
    obtain ⟨htotal, htotalpos⟩ := ih h.2 hsum
    refine ⟨htotal, htotalpos.trans ?_⟩
    simp [hpos, or_assoc]

theorem totalCapacity_le_zero_iff {weights : List Float} (h : ∀ w ∈ weights, IsWeight w) :
    totalCapacity weights ≤ 0 ↔ ∀ w ∈ weights, ¬0 < w := by
  have hzero : IsAmount (-ofNat 0) 0 := .zero .negative
  obtain ⟨hsum, hpos⟩ := isSum_foldl h (Or.inl ⟨0, hzero⟩)
  rw [totalCapacity, hsum.le_zero_iff, hpos, hzero.pos_iff]
  simp

/-! ## Shares -/

section Shares

variable (items : Nat) (total : Float) (weights : List Float) (assigned : Nat)

theorem length_shares : (shares items total weights assigned).length = weights.length := by
  induction weights generalizing assigned with
  | nil => rfl
  | cons w weights ih => rw [shares, List.length_cons, ih, List.length_cons]

theorem total_shares_le : Number.total (shares items total weights assigned) ≤ items - assigned := by
  induction weights generalizing assigned with
  | nil => exact Nat.zero_le _
  | cons w weights ih =>
    have hrest := ih (assigned + min (share items w total) (items - assigned))
    rw [shares, Number.total_cons]
    omega

theorem share_of_not_pos {w : Float} (hw : IsWeight w) (hzero : ¬0 < w) :
    share items w total = 0 := by
  have hamount := hw.isAmount
  rw [hamount.eq_zero hzero] at hamount
  exact hamount.floor_mul_div _ _

theorem getElem?_shares_of_not_pos (h : ∀ w ∈ weights, IsWeight w) {i : Nat} {w : Float}
    (hw : weights[i]? = some w) (hzero : ¬0 < w) :
    (shares items total weights assigned)[i]? = some 0 := by
  induction weights generalizing assigned i with
  | nil => cases hw
  | cons w' weights ih =>
    rw [List.forall_mem_cons] at h
    rw [shares]
    cases i with
    | zero =>
      obtain rfl := Option.some.inj hw
      rw [share_of_not_pos items total h.1 hzero]
      rfl
    | succ i => exact ih _ h.2 hw

end Shares

/-! ## The heaviest device -/

section Heaviest

theorem foldl_heavier {weights : List Float} {entries : List (Float × Nat)}
    (h : ∀ e ∈ entries, weights[e.2]? = some e.1) (best : Nat × Float)
    (hbest : weights[best.1]? = some best.2) :
    ∃ last, entries.foldl (fun best e => if less best.2 e.1 then (e.2, e.1) else best) best = last ∧
      weights[last.1]? = some last.2 ∧ (∀ y, last.2 < y → best.2 < y) ∧
      ∀ e ∈ entries, ¬last.2 < e.1 := by
  -- Whatever is above the last one is above all that were best before it.
  induction entries generalizing best with
  | nil => exact ⟨best, rfl, hbest, fun _ hlt => hlt, fun _ hmem => by cases hmem⟩
  | cons e entries ih =>
    rw [List.forall_mem_cons] at h
    rw [List.foldl_cons]
    split
    · rename_i hless
      have hless : best.2 < e.1 := of_decide_eq_true hless
      obtain ⟨last, heq, hlast, hbelow, hall⟩ := ih h.2 (e.2, e.1) h.1
      refine ⟨last, heq, hlast, fun y hlt => lt_of_lt_of_lt hless (hbelow y hlt), ?_⟩
      rw [List.forall_mem_cons]
      exact ⟨fun hlt => lt_asymm (hbelow _ hlt) (hbelow _ hlt), hall⟩
    · rename_i hless
      have hless : ¬best.2 < e.1 := fun hlt => hless (decide_eq_true hlt)
      obtain ⟨last, heq, hlast, hbelow, hall⟩ := ih h.2 best hbest
      refine ⟨last, heq, hlast, hbelow, ?_⟩
      rw [List.forall_mem_cons]
      exact ⟨fun hlt => hless (hbelow _ hlt), hall⟩

theorem exists_heaviest {weights : List Float} (h : weights ≠ []) :
    ∃ x, weights[heaviest weights]? = some x ∧ ∀ y ∈ weights, ¬x < y := by
  cases weights with
  | nil => exact absurd rfl h
  | cons w weights =>
    have hentries : ∀ e ∈ weights.zipIdx 1, (w :: weights)[e.2]? = some e.1 := by
      rintro ⟨y, i⟩ he
      obtain ⟨hpos, hget⟩ := List.mk_mem_zipIdx_iff_le_and_getElem?_sub.mp he
      obtain ⟨i, rfl⟩ := Nat.exists_eq_add_of_le' hpos
      exact hget
    obtain ⟨last, heq, hlast, hbelow, hall⟩ := foldl_heavier hentries (0, w) rfl
    refine ⟨last.2, ?_, ?_⟩
    · rw [heaviest, heq]
      exact hlast
    · rw [List.forall_mem_cons]
      refine ⟨fun hlt => lt_asymm (hbelow _ hlt) (hbelow _ hlt), ?_⟩
      intro y hy
      obtain ⟨i, hi⟩ := List.mem_iff_getElem?.mp hy
      exact hall (y, i + 1) (List.mk_mem_zipIdx_iff_le_and_getElem?_sub.mpr ⟨Nat.le_add_left 1 i, hi⟩)

end Heaviest

/-! ## Counts -/

theorem total_modify_add {l : List Nat} {i : Nat} (h : i < l.length) (d : Nat) :
    Number.total (l.modify i (· + d)) = Number.total l + d := by
  induction l generalizing i with
  | nil => cases h
  | cons n l ih =>
    cases i with
    | zero =>
      rw [List.modify_zero_cons, Number.total_cons, Number.total_cons]
      omega
    | succ i =>
      rw [List.modify_succ_cons, Number.total_cons, Number.total_cons,
        ih (Nat.lt_of_succ_lt_succ h), Nat.add_assoc]

/-- What the devices hold before the cap. -/
def capacityHoldings (items : Nat) (weights : List Float) : List Holding :=
  (capacityCounts items weights).zipWith (fun count weight => ⟨count, 0 < weight⟩) weights

section Counts

variable (items : Nat) (weights : List Float)

theorem length_capacityCounts : (capacityCounts items weights).length = weights.length := by
  rw [capacityCounts, List.length_modify, length_shares]

theorem capacityHoldings_eq :
    capacityHoldings items weights =
      ((capacityCounts items weights).zip weights).map fun p => ⟨p.1, 0 < p.2⟩ := by
  rw [List.map_zip_eq_zipWith]
  rfl

theorem map_count_capacityHoldings :
    (capacityHoldings items weights).map (·.count) = capacityCounts items weights := by
  rw [capacityHoldings_eq, List.map_map]
  exact List.map_fst_zip (length_capacityCounts items weights).le

theorem map_isOpen_capacityHoldings :
    (capacityHoldings items weights).map (·.isOpen) = weights.map fun w => decide (0 < w) := by
  have hzip := List.map_snd_zip (length_capacityCounts items weights).ge
  conv_rhs => rw [← hzip, List.map_map]
  rw [capacityHoldings_eq, List.map_map]
  rfl

theorem openCount_capacityHoldings :
    openCount (capacityHoldings items weights) = weights.countP fun w => decide (0 < w) := by
  have hmap := map_isOpen_capacityHoldings items weights
  have hcount := congrArg (List.countP id) hmap
  rwa [List.countP_map, List.countP_map] at hcount

variable {weights}

/-- Whatever the shares are, the remainder makes up for them. -/
theorem total_capacityCounts (hne : weights ≠ []) :
    Number.total (capacityCounts items weights) = items := by
  obtain ⟨x, hx, -⟩ := exists_heaviest hne
  obtain ⟨hlt, -⟩ := List.getElem?_eq_some_iff.mp hx
  have hle := total_shares_le items (totalCapacity weights) weights 0
  rw [capacityCounts, total_modify_add (by rwa [length_shares])]
  omega

theorem getElem?_capacityCounts_of_not_pos (h : ∀ w ∈ weights, IsWeight w)
    (hpos : ∃ w ∈ weights, 0 < w) {i : Nat} {w : Float} (hw : weights[i]? = some w)
    (hzero : ¬0 < w) : (capacityCounts items weights)[i]? = some 0 := by
  obtain ⟨y, hy, hpos⟩ := hpos
  obtain ⟨x, hx, hmax⟩ := exists_heaviest (List.ne_nil_of_mem hy)
  have hne : heaviest weights ≠ i := by
    rintro rfl
    obtain rfl := Option.some.inj (hx.symm.trans hw)
    exact hmax y hy ((h x (List.mem_of_getElem? hx)).isAmount.lt_of_pos hzero hpos)
  rw [capacityCounts, List.getElem?_modify, getElem?_shares_of_not_pos items _ weights 0 h hw hzero]
  exact congrArg some (if_neg hne)

theorem itemCount_capacityHoldings (hne : weights ≠ []) :
    itemCount (capacityHoldings items weights) = items := by
  rw [itemCount, map_count_capacityHoldings, total_capacityCounts items hne]

theorem closed_capacityHoldings (h : ∀ w ∈ weights, IsWeight w) (hpos : ∃ w ∈ weights, 0 < w) :
    ∀ hd ∈ capacityHoldings items weights, hd.isOpen = false → hd.count = 0 := by
  intro hd hmem hopen
  obtain ⟨i, hi⟩ := List.mem_iff_getElem?.mp hmem
  obtain ⟨count, w, hcount, hw, rfl⟩ := List.getElem?_zipWith_eq_some.mp hi
  rw [getElem?_capacityCounts_of_not_pos items h hpos hw (of_decide_eq_false hopen)] at hcount
  exact (Option.some.inj hcount).symm

end Counts

/-! ## Partitions -/

/-- Why items cannot be split by capacity. -/
inductive Unsplittable (cap : Option Nat) (weights : Table DeviceId Float) (items : Nat) : Prop where
  | invalidCapacity (w : Float) (hmem : w ∈ weights.values) (h : ¬IsWeight w)
  | noDevices (hempty : weights.values = []) (hitems : 0 < items)
  | noCapacity (hne : weights.values ≠ []) (h : ∀ w ∈ weights.values, ¬0 < w)
  | capExceeded (c : Nat) (hcap : cap = some c)
      (h : (weights.values.countP fun w => decide (0 < w)) * c < items)

section Partitions

variable {τ : Type}

/-- Every device has a part, the parts in the order of the ids are the items, a device without capacity
has an empty part, and the rounds under a cap end with parts within it. -/
structure Partitions (cap : Option Nat) (weights : Table DeviceId Float) (items : List τ)
    (parts : Table DeviceId (List τ)) : Prop where
  keys : parts.keys = weights.keys
  flatten : parts.values.flatten = items
  without_capacity : ∀ id w, weights.get? id = some w → ¬0 < w → parts.get? id = some []
  le_cap : ∀ c, cap = some c → ∀ part ∈ parts.values, part.length ≤ c
  rounds : ∀ c, cap = some c → ∃ result,
    Rounds c (excess c (capacityHoldings items.length weights.values))
      (cutOff c (capacityHoldings items.length weights.values)) result ∧
    parts.values.map List.length = result.map (·.count)

section Assign

variable {devices : List DeviceId} {counts : List Nat} {items : List τ}

theorem map_fst_zip_runs (items : List τ) (hlength : counts.length = devices.length) :
    (devices.zip (runs counts items)).map Prod.fst = devices :=
  List.map_fst_zip (by rw [length_runs, hlength])

theorem entries_assign (hsorted : devices.Pairwise fun a b => compare a b = .lt)
    (hlength : counts.length = devices.length) :
    (assign devices counts items).entries = devices.zip (runs counts items) := by
  have hfst := map_fst_zip_runs items hlength
  apply Table.entries_ofList
  rw [← hfst] at hsorted
  exact List.pairwise_map.mp hsorted

theorem keys_assign (hsorted : devices.Pairwise fun a b => compare a b = .lt)
    (hlength : counts.length = devices.length) : (assign devices counts items).keys = devices := by
  rw [Table.keys, entries_assign hsorted hlength]
  exact map_fst_zip_runs items hlength

theorem values_assign (hsorted : devices.Pairwise fun a b => compare a b = .lt)
    (hlength : counts.length = devices.length) :
    (assign devices counts items).values = runs counts items := by
  rw [Table.values, entries_assign hsorted hlength]
  exact List.map_snd_zip (by rw [length_runs, hlength])

/-- A device gets the run that stands at its place, in whatever order the devices are given. -/
theorem get?_assign (hnodup : devices.Nodup) (hlength : counts.length = devices.length) {i : Nat}
    {id : DeviceId} (hid : devices[i]? = some id) :
    (assign devices counts items).get? id = (runs counts items)[i]? := by
  have hfst := map_fst_zip_runs items hlength
  obtain ⟨hlt, -⟩ := List.getElem?_eq_some_iff.mp hid
  obtain ⟨part, hpart⟩ : ∃ part, (runs counts items)[i]? = some part :=
    ⟨_, List.getElem?_eq_getElem (by rwa [length_runs, hlength])⟩
  rw [hpart]
  apply Table.get?_ofList_of_mem (hfst.symm ▸ hnodup)
  exact List.mem_of_getElem? (List.getElem?_zip_eq_some.mpr ⟨hid, hpart⟩)

theorem exists_get?_assign (hnodup : devices.Nodup) (hlength : counts.length = devices.length)
    (htotal : Number.total counts = items.length) {i n : Nat} {id : DeviceId}
    (hid : devices[i]? = some id) (hcount : counts[i]? = some n) :
    ∃ part, (assign devices counts items).get? id = some part ∧ part.length = n := by
  rw [← map_length_runs htotal.le, List.getElem?_map, Option.map_eq_some_iff] at hcount
  obtain ⟨part, hpart, hcount⟩ := hcount
  rw [get?_assign hnodup hlength hid]
  exact ⟨part, hpart, hcount⟩

end Assign

variable {cap : Option Nat} {weights : Table DeviceId Float} {items : List τ} {result : List Holding}

theorem partitions_assign (hitems : itemCount (capacityHoldings items.length weights.values) = items.length)
    (h : Settles cap (capacityHoldings items.length weights.values) result) :
    Partitions cap weights items (assign weights.keys (result.map (·.count)) items) := by
  have hopen := h.isOpen_eq.trans (map_isOpen_capacityHoldings items.length weights.values)
  have htotal : Number.total (result.map (·.count)) = items.length := h.itemCount_eq.trans hitems
  have hlength : (result.map (·.count)).length = weights.keys.length := by
    have hlength := congrArg List.length hopen
    simpa [Table.keys, Table.values] using hlength
  have hsorted := weights.keys_sorted
  have hlengths := map_length_runs htotal.le
  constructor
  case keys => exact keys_assign hsorted hlength
  case flatten =>
    rw [values_assign hsorted hlength]
    exact flatten_runs _ items htotal.ge
  case without_capacity =>
    intro id w hget hzero
    obtain ⟨i, hkey, hi⟩ := Table.exists_getElem?_of_get? hget
    have hat := congrArg (·[i]?) hopen
    simp only [List.getElem?_map, hi, Option.map_some, decide_eq_false hzero,
      Option.map_eq_some_iff] at hat
    obtain ⟨hd, hhd, hclosed⟩ := hat
    have hcount := h.closed hd (List.mem_of_getElem? hhd) hclosed
    obtain ⟨part, hpart, hempty⟩ := exists_get?_assign weights.nodup_keys hlength htotal (n := 0) hkey
      (by rw [List.getElem?_map, hhd, Option.map_some, hcount])
    rw [hpart, List.eq_nil_of_length_eq_zero hempty]
  case le_cap =>
    intro c hcap part hmem
    rw [values_assign hsorted hlength] at hmem
    have hmem := List.mem_map_of_mem (f := List.length) hmem
    rw [hlengths] at hmem
    obtain ⟨hd, hhd, heq⟩ := List.mem_map.mp hmem
    exact heq ▸ h.le_cap c hcap hd hhd
  case rounds =>
    intro c hcap
    refine ⟨result, h.rounds c hcap, ?_⟩
    rw [values_assign hsorted hlength, hlengths]

theorem find?_invalid_eq_none_iff :
    (weights.entries.find? fun e => !e.2.isFinite || e.2 < 0) = none ↔
      ∀ w ∈ weights.values, IsWeight w := by
  rw [List.find?_eq_none, Table.values, List.forall_mem_map]
  refine forall₂_congr fun e _ => ?_
  simp [IsWeight]

theorem byCapacity_of_invalid (cap : Option Nat) (h : ¬∀ w ∈ weights.values, IsWeight w)
    (items : List τ) :
    ∃ id w, byCapacity cap weights items = .error (.invalidCapacity id w) := by
  rw [← find?_invalid_eq_none_iff, ← ne_eq, Option.ne_none_iff_exists'] at h
  obtain ⟨⟨id, w⟩, hfind⟩ := h
  refine ⟨id, w, ?_⟩
  rw [byCapacity, hfind]

theorem byCapacity_of_empty (cap : Option Nat) (h : weights.values = []) (items : List τ) :
    byCapacity cap weights items = withoutDevices items := by
  have hempty : weights.entries = [] := List.map_eq_nil_iff.mp h
  rw [byCapacity, hempty]
  rfl

theorem byCapacity_of_not_pos (cap : Option Nat) (h : ∀ w ∈ weights.values, IsWeight w)
    (hne : weights.values ≠ []) (hzero : ∀ w ∈ weights.values, ¬0 < w) (items : List τ) :
    byCapacity cap weights items = .error (.noCapacity (totalCapacity weights.values)) := by
  have hempty : weights.entries.isEmpty = false :=
    List.isEmpty_eq_false_iff.mpr fun hnil => hne (List.map_eq_nil_iff.mpr hnil)
  rw [byCapacity, find?_invalid_eq_none_iff.mpr h, hempty]
  dsimp only
  rw [if_neg Bool.false_ne_true, if_pos ((totalCapacity_le_zero_iff h).mpr hzero)]

theorem byCapacity_of_pos (cap : Option Nat) (h : ∀ w ∈ weights.values, IsWeight w)
    (hpos : ∃ w ∈ weights.values, 0 < w) (items : List τ) :
    byCapacity cap weights items = (do
      let counts ← capped cap (capacityHoldings items.length weights.values)
      .ok (assign weights.keys counts items)) := by
  obtain ⟨w, hw, hpos⟩ := hpos
  have hempty : weights.entries.isEmpty = false :=
    List.isEmpty_eq_false_iff.mpr fun hnil => List.ne_nil_of_mem hw (List.map_eq_nil_iff.mpr hnil)
  have htotal : ¬totalCapacity weights.values ≤ 0 := by
    rw [totalCapacity_le_zero_iff h]
    exact fun hzero => hzero w hw hpos
  rw [byCapacity, find?_invalid_eq_none_iff.mpr h, hempty]
  dsimp only
  rw [if_neg Bool.false_ne_true, if_neg htotal]
  rfl

theorem partitions_empty (cap : Option Nat) :
    ¬Unsplittable cap .empty 0 ∧ Partitions cap .empty ([] : List τ) .empty := by
  constructor
  · rintro (⟨_, hmem, -⟩ | ⟨-, hitems⟩ | ⟨hne, -⟩ | ⟨_, -, hlt⟩)
    · cases hmem
    · cases hitems
    · exact hne rfl
    · cases hlt
  · constructor
    case keys => rfl
    case flatten => rfl
    case without_capacity =>
      intro id w hget
      cases hget
    case le_cap =>
      intro c _ part hmem
      cases hmem
    case rounds => exact fun c _ => ⟨[], .done [], rfl⟩

theorem not_unsplittable_of_pos (h : ∀ w ∈ weights.values, IsWeight w)
    (hpos : ∃ w ∈ weights.values, 0 < w) {n : Nat}
    (hcap : ∀ c, cap = some c → n ≤ (weights.values.countP fun w => decide (0 < w)) * c) :
    ¬Unsplittable cap weights n := by
  obtain ⟨w, hw, hpos⟩ := hpos
  rintro (⟨w', hmem, hnot⟩ | ⟨hempty, -⟩ | ⟨-, hzero⟩ | ⟨c, hc, hlt⟩)
  · exact hnot (h w' hmem)
  · exact List.ne_nil_of_mem hw hempty
  · exact hzero w hw hpos
  · exact hlt.not_ge (hcap c hc)

/-- With valid weights, not all of them zero, a cap alone can stand in the way. -/
theorem partitions_of_pos (cap : Option Nat) (h : ∀ w ∈ weights.values, IsWeight w)
    (hpos : ∃ w ∈ weights.values, 0 < w) (items : List τ) :
    (∃ fault, byCapacity cap weights items = .error fault ∧ fault.kind = .capacity ∧
      (Unsplittable cap weights items.length ∨
        Overflows cap (weights.values.countP fun w => decide (0 < w)))) ∨
    ∃ parts, byCapacity cap weights items = .ok parts ∧
      ¬Unsplittable cap weights items.length ∧ Partitions cap weights items parts := by
  have hcount := itemCount_capacityHoldings items.length (List.ne_nil_of_mem hpos.choose_spec.1)
  have hopen := openCount_capacityHoldings items.length weights.values
  rw [byCapacity_of_pos cap h hpos]
  obtain ⟨c, hcap, hlt, herror⟩ | ⟨result, hok, hsettles, hle⟩ :=
    capped_cases (closed_capacityHoldings items.length h hpos) cap
  · rw [hcount, hopen] at hlt
    rw [herror]
    exact Or.inl ⟨_, rfl, rfl, hlt.imp_left (.capExceeded c hcap)⟩
  · rw [hcount, hopen] at hle
    rw [hok]
    exact Or.inr ⟨_, rfl, not_unsplittable_of_pos h hpos hle, partitions_assign hcount hsettles⟩

/-- A split by capacity fails for want of capacity, or is a partition. The only other cause of a failure is
a cap that leaves the devices with capacity more room than a word holds. -/
theorem byCapacity_partitions (cap : Option Nat) (weights : Table DeviceId Float) (items : List τ) :
    (∃ fault, byCapacity cap weights items = .error fault ∧ fault.kind = .capacity ∧
      (Unsplittable cap weights items.length ∨
        Overflows cap (weights.values.countP fun w => decide (0 < w)))) ∨
    ∃ parts, byCapacity cap weights items = .ok parts ∧
      ¬Unsplittable cap weights items.length ∧ Partitions cap weights items parts := by
  by_cases hvalid : ∀ w ∈ weights.values, IsWeight w
  · by_cases hpos : ∃ w ∈ weights.values, 0 < w
    · exact partitions_of_pos cap hvalid hpos items
    · have hzero : ∀ w ∈ weights.values, ¬0 < w := fun w hw hlt => hpos ⟨w, hw, hlt⟩
      by_cases hempty : weights.values = []
      · obtain rfl : weights = .empty := Table.ext_entries (List.map_eq_nil_iff.mp hempty)
        rw [byCapacity_of_empty cap hempty]
        cases items with
        | nil => exact Or.inr ⟨.empty, rfl, partitions_empty cap⟩
        | cons item items =>
          exact Or.inl ⟨_, rfl, rfl, Or.inl (.noDevices hempty (Nat.zero_lt_succ _))⟩
      · rw [byCapacity_of_not_pos cap hvalid hempty hzero]
        exact Or.inl ⟨_, rfl, rfl, Or.inl (.noCapacity hempty hzero)⟩
  · obtain ⟨id, w, herror⟩ := byCapacity_of_invalid cap hvalid items
    push Not at hvalid
    obtain ⟨w', hmem, hnot⟩ := hvalid
    exact Or.inl ⟨_, herror, rfl, Or.inl (.invalidCapacity w' hmem hnot)⟩

end Partitions

end GpuCluster.Distribution
