import Mathlib
import GpuCluster.Error
import GpuCluster.Proofs.Distribution.Filling
import GpuCluster.Proofs.Distribution.Partition

/-!
# A uniform split is balanced

The parts of a uniform split differ by one item at most. So a cap that leaves room for all items is at
least as large as every part: it stands in the way of a split, or it has no effect.
-/

namespace GpuCluster.Distribution

/-! ## Repeated devices -/

section Repeated

variable {ids seen : List DeviceId}

theorem firstDuplicate?_eq_none_iff :
    firstDuplicate? ids seen = none ↔ ids.Nodup ∧ ∀ id ∈ ids, id ∉ seen := by
  induction ids generalizing seen with
  | nil => simp [firstDuplicate?]
  | cons id ids ih =>
    rw [firstDuplicate?, List.nodup_cons, List.forall_mem_cons]
    split
    · rename_i hseen
      constructor
      · rintro ⟨⟩
      · rintro ⟨-, hnew, -⟩
        exact absurd hseen hnew
    · rename_i hnew
      rw [ih]
      constructor
      · rintro ⟨hnodup, hrest⟩
        refine ⟨⟨?_, hnodup⟩, hnew, ?_⟩
        · exact fun hmem => hrest id hmem List.mem_cons_self
        · exact fun id' hmem hseen => hrest id' hmem (List.mem_cons_of_mem _ hseen)
      · rintro ⟨⟨hfresh, hnodup⟩, -, hrest⟩
        refine ⟨hnodup, ?_⟩
        rintro id' hmem (_ | ⟨_, hseen⟩)
        · exact hfresh hmem
        · exact hrest id' hmem hseen

theorem exists_eq_append_of_firstDuplicate? {id : DeviceId} (h : firstDuplicate? ids seen = some id) :
    ∃ before after, ids = before ++ id :: after ∧ (id ∈ before ∨ id ∈ seen) ∧
      before.Nodup ∧ ∀ id' ∈ before, id' ∉ seen := by
  induction ids generalizing seen with
  | nil => cases h
  | cons first ids ih =>
    rw [firstDuplicate?] at h
    split at h
    · rename_i hseen
      cases h
      exact ⟨[], ids, rfl, Or.inr hseen, List.nodup_nil, by simp⟩
    · rename_i hnew
      obtain ⟨before, after, heq, hmem, hnodup, hbefore⟩ := ih h
      refine ⟨first :: before, after, by rw [heq, List.cons_append], ?_, ?_, ?_⟩
      · rcases hmem with hmem | _ | ⟨_, hseen⟩
        · exact Or.inl (List.mem_cons_of_mem _ hmem)
        · exact Or.inl List.mem_cons_self
        · exact Or.inr hseen
      · refine List.nodup_cons.mpr ⟨fun hmem => ?_, hnodup⟩
        exact hbefore first hmem List.mem_cons_self
      · rw [List.forall_mem_cons]
        refine ⟨hnew, ?_⟩
        exact fun id' hmem hseen => hbefore id' hmem (List.mem_cons_of_mem _ hseen)

end Repeated

/-! ## Even counts -/

section Counts

variable {devices items c : Nat}

theorem length_uniformCounts (devices items : Nat) : (uniformCounts devices items).length = devices := by
  rw [uniformCounts, List.length_map, List.length_range]

theorem getElem?_uniformCounts {i : Nat} (h : i < devices) :
    (uniformCounts devices items)[i]? = some (items / devices + if i < items % devices then 1 else 0) := by
  rw [uniformCounts, List.getElem?_map, List.getElem?_range h, Option.map_some]

theorem total_map_range (base extra n : Nat) :
    Number.total ((List.range n).map fun i => base + if i < extra then 1 else 0) =
      n * base + min n extra := by
  induction n with
  | zero => simp
  | succ n ih =>
    rw [List.range_succ, List.map_append, Number.total_append, ih, List.map_singleton,
      Number.total_cons, Number.total_nil, Nat.succ_mul]
    split <;> omega

theorem total_uniformCounts (h : 0 < devices) : Number.total (uniformCounts devices items) = items := by
  have hlt := Nat.mod_lt items h
  rw [uniformCounts, total_map_range, min_eq_right hlt.le]
  exact Nat.div_add_mod items devices

/-- A cap with room for all items is no smaller than any part of an even split. -/
theorem le_of_mem_uniformCounts (hroom : items ≤ devices * c) : ∀ n ∈ uniformCounts devices items, n ≤ c := by
  intro n hn
  obtain ⟨i, hi, rfl⟩ := List.mem_map.mp hn
  have hpos : 0 < devices := (Nat.zero_le i).trans_lt (List.mem_range.mp hi)
  have hquotient : items / devices ≤ c := Nat.div_le_of_le_mul hroom
  split
  · rename_i hextra
    -- With a remainder the quotient is below the cap.
    apply Nat.succ_le_of_lt
    apply lt_of_le_of_ne hquotient
    rintro rfl
    have hsplit := Nat.div_add_mod items devices
    omega
  · exact hquotient

/-- What the devices of a uniform split hold before the cap. -/
def uniformHoldings (devices items : Nat) : List Holding := (uniformCounts devices items).map (⟨·, true⟩)

theorem map_count_uniformHoldings (devices items : Nat) :
    (uniformHoldings devices items).map (·.count) = uniformCounts devices items := by
  rw [uniformHoldings, List.map_map]
  exact List.map_id _

theorem openCount_uniformHoldings (devices items : Nat) :
    openCount (uniformHoldings devices items) = devices := by
  rw [openCount, uniformHoldings, List.countP_map]
  exact (congrFun List.countP_true _).trans (length_uniformCounts devices items)

theorem itemCount_uniformHoldings (h : 0 < devices) : itemCount (uniformHoldings devices items) = items := by
  rw [itemCount, map_count_uniformHoldings, total_uniformCounts h]

theorem capped_uniformHoldings (cap : Option Nat)
    (hroom : ∀ c, cap = some c → items ≤ roomInWord c devices) (h : 0 < devices) : capped cap (uniformHoldings devices items) = .ok (uniformCounts devices items) := by
  cases cap with
  | none => rw [capped, map_count_uniformHoldings]
  | some c =>
    have hroom := hroom c rfl
    have hle : ∀ hd ∈ uniformHoldings devices items, hd.count ≤ c := by
      intro hd hmem
      obtain ⟨n, hn, rfl⟩ := List.mem_map.mp hmem
      exact le_of_mem_uniformCounts (hroom.trans (roomInWord_le c devices)) n hn
    rw [capped, openCount_uniformHoldings, itemCount_uniformHoldings h, if_neg hroom.not_gt,
      applyCap_eq_self hle, map_count_uniformHoldings]

theorem capped_uniformHoldings_of_lt (hlt : roomInWord c devices < items) (h : 0 < devices) :
    capped (some c) (uniformHoldings devices items) = .error (.capExceeded items c devices) := by
  rw [capped, openCount_uniformHoldings, itemCount_uniformHoldings h, if_pos hlt]

end Counts

/-! ## Parts of distinct devices -/

section Assign

variable {τ : Type} {devices : List DeviceId} {counts : List Nat} (items : List τ)
  (hnodup : devices.Nodup) (hlength : counts.length = devices.length)

include hnodup hlength

theorem mem_assign_iff (id : DeviceId) : id ∈ assign devices counts items ↔ id ∈ devices := by
  have hfst := map_fst_zip_runs items hlength
  rw [assign, Table.mem_ofList (hfst.symm ▸ hnodup), hfst]

theorem filterMap_get?_assign : devices.filterMap (assign devices counts items).get? = runs counts items := by
  have hmap : devices.map (assign devices counts items).get? = (runs counts items).map some := by
    apply List.ext_getElem?
    intro i
    rw [List.getElem?_map, List.getElem?_map]
    rcases lt_or_ge i devices.length with hlt | hge
    · have hid := List.getElem?_eq_getElem hlt
      rw [hid, Option.map_some, get?_assign hnodup hlength hid,
        List.getElem?_eq_getElem (by rwa [length_runs, hlength])]
      rfl
    · rw [List.getElem?_eq_none hge, List.getElem?_eq_none (by rwa [length_runs, hlength])]
      rfl
  have hreduce := congrArg (List.filterMap id) hmap
  rwa [List.filterMap_map, List.filterMap_map, Function.id_comp, Function.id_comp,
    List.filterMap_some] at hreduce

end Assign

/-! ## Balance -/

/-- Why so many devices cannot share so many items. -/
inductive Crowded (cap : Option Nat) (devices items : Nat) : Prop where
  | noDevices (hdevices : devices = 0) (hitems : 0 < items)
  | capExceeded (c : Nat) (hcap : cap = some c) (hdevices : 0 < devices) (h : devices * c < items)

section Balances

variable {τ : Type}

/-- Every device has a part, the parts in the order of the devices are the items, and the first devices
have one item more than the others if these cannot all have the same number. -/
structure Balances (devices : List DeviceId) (items : List τ) (parts : Table DeviceId (List τ)) : Prop where
  mem_iff : ∀ id, id ∈ parts ↔ id ∈ devices
  flatten : (devices.filterMap parts.get?).flatten = items
  length_part : ∀ (i : Nat) (id : DeviceId) (part : List τ), devices[i]? = some id → parts.get? id = some part →
    part.length = items.length / devices.length + if i < items.length % devices.length then 1 else 0

variable {devices : List DeviceId} (items : List τ)

theorem balances_assign (hnodup : devices.Nodup) (hpos : 0 < devices.length) :
    Balances devices items (assign devices (uniformCounts devices.length items.length) items) := by
  have hlength := length_uniformCounts devices.length items.length
  have htotal : Number.total (uniformCounts devices.length items.length) = items.length :=
    total_uniformCounts hpos
  constructor
  case mem_iff => exact mem_assign_iff items hnodup hlength
  case flatten =>
    rw [filterMap_get?_assign items hnodup hlength]
    exact flatten_runs _ items htotal.ge
  case length_part =>
    intro i id part hi hpart
    obtain ⟨hlt, -⟩ := List.getElem?_eq_some_iff.mp hi
    obtain ⟨part', hpart', hcount⟩ :=
      exists_get?_assign hnodup hlength htotal hi (getElem?_uniformCounts hlt)
    obtain rfl := Option.some.inj (hpart.symm.trans hpart')
    exact hcount

theorem uniformly_of_firstDuplicate? (cap : Option Nat) {id : DeviceId}
    (h : firstDuplicate? devices [] = some id) :
    uniformly cap devices items = .error (.duplicateDevice id) := by
  rw [uniformly, h]

theorem uniformly_of_nodup (cap : Option Nat) (hnodup : devices.Nodup) (hne : devices ≠ []) :
    uniformly cap devices items = (do
      let counts ← capped cap (uniformHoldings devices.length items.length)
      .ok (assign devices counts items)) := by
  have hnone : firstDuplicate? devices [] = none := firstDuplicate?_eq_none_iff.mpr ⟨hnodup, by simp⟩
  rw [uniformly, hnone]
  exact if_neg (by simpa using hne)

theorem uniformly_eq_ok (cap : Option Nat) (hnodup : devices.Nodup) (hne : devices ≠ [])
    (hroom : ∀ c, cap = some c → items.length ≤ roomInWord c devices.length) :
    uniformly cap devices items =
      .ok (assign devices (uniformCounts devices.length items.length) items) := by
  rw [uniformly_of_nodup items cap hnodup hne,
    capped_uniformHoldings cap hroom (List.length_pos_iff.mpr hne)]
  rfl

theorem Balances.length_le {parts : Table DeviceId (List τ)} (h : Balances devices items parts) {c : Nat}
    (hroom : items.length ≤ devices.length * c) :
    ∀ id part, parts.get? id = some part → part.length ≤ c := by
  intro id part hpart
  have hmem := (h.mem_iff id).mp (Table.mem_of_get? hpart)
  obtain ⟨i, hi⟩ := List.mem_iff_getElem?.mp hmem
  obtain ⟨hlt, -⟩ := List.getElem?_eq_some_iff.mp hi
  rw [h.length_part i id part hi hpart]
  exact le_of_mem_uniformCounts hroom _ (List.mem_of_getElem? (getElem?_uniformCounts hlt))

theorem balances_nil : Balances [] ([] : List τ) .empty where
  mem_iff id := by simp
  flatten := rfl
  length_part i id part hi := by simp at hi

theorem not_crowded (hpos : 0 < devices.length) {cap : Option Nat}
    (hroom : ∀ c, cap = some c → items.length ≤ devices.length * c) :
    ¬Crowded cap devices.length items.length := by
  rintro (⟨hdevices, -⟩ | ⟨c, hcap, -, hlt⟩)
  · exact hpos.ne' hdevices
  · exact hlt.not_ge (hroom c hcap)

theorem not_nodup_of_repeated {before after : List DeviceId} {id : DeviceId}
    (heq : devices = before ++ id :: after) (hmem : id ∈ before) : ¬devices.Nodup := by
  intro hnodup
  rw [heq, List.nodup_append] at hnodup
  exact hnodup.2.2 id hmem id List.mem_cons_self rfl

/-- Among distinct devices, a cap alone can stand in the way. -/
theorem uniformly_cases (cap : Option Nat) (hnodup : devices.Nodup) (hne : devices ≠ []) :
    (∃ c, cap = some c ∧ (devices.length * c < items.length ∨ Overflows cap devices.length) ∧
      uniformly cap devices items = .error (.capExceeded items.length c devices.length)) ∨
    (∀ c, cap = some c → items.length ≤ roomInWord c devices.length) := by
  by_cases hroom : ∀ c, cap = some c → items.length ≤ roomInWord c devices.length
  · exact Or.inr hroom
  · push Not at hroom
    obtain ⟨c, rfl, hlt⟩ := hroom
    refine Or.inl ⟨c, rfl, lt_or_overflows hlt, ?_⟩
    rw [uniformly_of_nodup items (some c) hnodup hne,
      capped_uniformHoldings_of_lt hlt (List.length_pos_iff.mpr hne)]
    rfl

/-- A uniform split is refused for a repeated device or for want of room, or is balanced whatever the cap.
The only other cause of a refusal is a cap that leaves the devices more room than a word holds. -/
theorem uniformly_balances (cap : Option Nat) (devices : List DeviceId) (items : List τ) :
    (¬devices.Nodup ∧ ∃ before id after, devices = before ++ id :: after ∧ id ∈ before ∧ before.Nodup ∧
      uniformly cap devices items = .error (.duplicateDevice id) ∧
      (Fault.duplicateDevice id).kind = .validation) ∨
    (devices.Nodup ∧
      (Crowded cap devices.length items.length ∨ Overflows cap devices.length) ∧
      ∃ fault, uniformly cap devices items = .error fault ∧ fault.kind = .capacity) ∨
    (devices.Nodup ∧ ¬Crowded cap devices.length items.length ∧
      ∃ parts, uniformly cap devices items = .ok parts ∧ uniformly none devices items = .ok parts ∧
        Balances devices items parts ∧
        ∀ c, cap = some c → ∀ id part, parts.get? id = some part → part.length ≤ c) := by
  cases hrepeated : firstDuplicate? devices [] with
  | some id =>
    obtain ⟨before, after, heq, hmem, hbefore, -⟩ := exists_eq_append_of_firstDuplicate? hrepeated
    have hmem : id ∈ before := hmem.resolve_right List.not_mem_nil
    have herror := uniformly_of_firstDuplicate? items cap hrepeated
    exact Or.inl ⟨not_nodup_of_repeated heq hmem, before, id, after, heq, hmem, hbefore, herror, rfl⟩
  | none =>
    have hnodup := (firstDuplicate?_eq_none_iff.mp hrepeated).1
    apply Or.inr
    rcases eq_or_ne devices [] with rfl | hne
    · cases items with
      | nil =>
        refine Or.inr ⟨hnodup, ?_, .empty, rfl, rfl, balances_nil, ?_⟩
        · rintro (⟨-, hitems⟩ | ⟨_, -, hdevices, -⟩)
          · exact lt_irrefl 0 hitems
          · exact lt_irrefl 0 hdevices
        · intro c _ id part hpart
          cases hpart
      | cons item items =>
        exact Or.inl ⟨hnodup, Or.inl (.noDevices rfl (Nat.zero_lt_succ _)),
          .noDevices (items.length + 1), rfl, rfl⟩
    · have hpos := List.length_pos_iff.mpr hne
      rcases uniformly_cases items cap hnodup hne with ⟨c, hcap, hlt, herror⟩ | hroom
      · exact Or.inl ⟨hnodup, hlt.imp_left (.capExceeded c hcap hpos), _, herror, rfl⟩
      · have hbalances := balances_assign items hnodup hpos
        have hle : ∀ c, cap = some c → items.length ≤ devices.length * c :=
          fun c hcap => (hroom c hcap).trans (roomInWord_le c _)
        refine Or.inr ⟨hnodup, not_crowded items hpos hle, _, ?_, ?_, hbalances, ?_⟩
        · exact uniformly_eq_ok items cap hnodup hne hroom
        · apply uniformly_eq_ok items none hnodup hne
          rintro c ⟨⟩
        · exact fun c hcap => hbalances.length_le items (hle c hcap)

end Balances

end GpuCluster.Distribution
