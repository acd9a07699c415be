import Mathlib
import GpuCluster.Table

/-!
# What a table holds

Membership of keys and entries after every operation. The keys of a table are in strict order, so
that a table with known keys has them in a known list. Mapping the values and shifting the keys commute
with the other operations.
-/

namespace GpuCluster.Table

open Std

variable {κ ν μ : Type} [Ord κ]

theorem ext_entries {t t' : Table κ ν} (h : t.entries = t'.entries) : t = t' := by
  obtain ⟨entries, sorted⟩ := t
  obtain ⟨entries', sorted'⟩ := t'
  exact (mk.injEq ..).mpr h

theorem mem_iff_get? {t : Table κ ν} {k : κ} : k ∈ t ↔ ∃ v, t.get? k = some v :=
  Option.isSome_iff_exists

theorem mem_of_get? {t : Table κ ν} {k : κ} {v : ν} (h : t.get? k = some v) : k ∈ t :=
  mem_iff_get?.mpr ⟨v, h⟩

theorem get?_eq_none_iff {t : Table κ ν} {k : κ} : t.get? k = none ↔ k ∉ t := by
  rw [mem_iff_get?, not_exists, Option.eq_none_iff_forall_ne_some]

@[simp]
theorem not_mem_empty (k : κ) : k ∉ (empty : Table κ ν) := Bool.false_ne_true

theorem keys_sorted (t : Table κ ν) : t.keys.Pairwise fun a b => compare a b = .lt :=
  List.pairwise_map.mpr t.sorted

theorem nodup_keys [TransOrd κ] (t : Table κ ν) : t.keys.Nodup :=
  t.keys_sorted.imp fun h he => by simp [he] at h

section Lawful

variable [LawfulEqOrd κ]

theorem find?_eq_some_iff {l : List (κ × ν)} (hl : l.Pairwise fun a b => compare a.1 b.1 = .lt)
    {k : κ} {v : ν} : find? k l = some v ↔ (k, v) ∈ l := by
  induction l with
  | nil => simp [find?]
  | cons hd tl ih =>
    obtain ⟨k', v'⟩ := hd
    rw [List.pairwise_cons] at hl
    rw [find?, List.mem_cons]
    split
    · rename_i hk
      have hkk := LawfulEqCmp.eq_of_compare hk
      subst hkk
      constructor
      · intro h
        exact Or.inl (by rw [Option.some.inj h])
      · rintro (h | h)
        · rw [(Prod.mk.inj h).2]
        · exact absurd (hl.1 _ h) (by simp)
    · rename_i hk
      rw [ih hl.2]
      constructor
      · exact Or.inr
      · rintro (h | h)
        · exact absurd (by rw [(Prod.mk.inj h).1]; simp) hk
        · exact h

theorem get?_eq_some_iff {t : Table κ ν} {k : κ} {v : ν} :
    t.get? k = some v ↔ (k, v) ∈ t.entries :=
  find?_eq_some_iff t.sorted

theorem exists_getElem?_of_get? {t : Table κ ν} {k : κ} {v : ν} (h : t.get? k = some v) :
    ∃ i : Nat, t.keys[i]? = some k ∧ t.values[i]? = some v := by
  obtain ⟨i, hi⟩ := List.mem_iff_getElem?.mp (get?_eq_some_iff.mp h)
  refine ⟨i, ?_, ?_⟩
  · rw [keys, List.getElem?_map, hi, Option.map_some]
  · rw [values, List.getElem?_map, hi, Option.map_some]

theorem exists_get?_of_mem_values {t : Table κ ν} {v : ν} (h : v ∈ t.values) :
    ∃ k, t.get? k = some v := by
  obtain ⟨⟨k, v'⟩, hmem, rfl⟩ := List.mem_map.mp h
  exact ⟨k, get?_eq_some_iff.mpr hmem⟩

theorem mem_values_iff {t : Table κ ν} {v : ν} : v ∈ t.values ↔ ∃ k, t.get? k = some v :=
  ⟨exists_get?_of_mem_values, fun ⟨_, h⟩ => List.mem_map_of_mem (get?_eq_some_iff.mp h)⟩

/-- A sum over all values falls when one of its terms does. -/
theorem sum_values_modify_lt {t : Table κ ν} {k : κ} {v : ν} (h : t.get? k = some v) {f : ν → Nat}
    {g : ν → ν} (hlt : f (g v) < f v) :
    ((t.modify k g).values.map f).sum < (t.values.map f).sum := by
  rw [values, values, modify, map, List.map_map, List.map_map, List.map_map]
  refine List.sum_lt_sum _ _ ?_ ⟨(k, v), get?_eq_some_iff.mp h, ?_⟩
  · rintro ⟨k', v'⟩ hmem
    simp only [Function.comp_apply]
    split_ifs with hk
    · obtain rfl := LawfulEqCmp.eq_of_compare hk
      obtain rfl := Option.some.inj (h.symm.trans (get?_eq_some_iff.mpr hmem))
      exact hlt.le
    · exact le_rfl
  · simpa using hlt

/-- A table is determined by what it holds at every key. -/
theorem ext_get? [TransOrd κ] {t t' : Table κ ν} (h : ∀ k, t.get? k = t'.get? k) : t = t' := by
  have hmem : ∀ e, e ∈ t.entries ↔ e ∈ t'.entries := by
    intro e
    rw [← get?_eq_some_iff, ← get?_eq_some_iff, h]
  have hperm : t.entries.Perm t'.entries :=
    (List.perm_ext_iff_of_nodup (.of_map _ t.nodup_keys) (.of_map _ t'.nodup_keys)).mpr hmem
  refine ext_entries (hperm.eq_of_pairwise (fun a b _ _ hab hba => ?_) t.sorted t'.sorted)
  cases hab.symm.trans (OrientedCmp.gt_of_lt hba)

theorem mem_keys_iff {t : Table κ ν} {k : κ} : k ∈ t.keys ↔ k ∈ t := by
  rw [keys, List.mem_map, mem_iff_get?]
  constructor
  · rintro ⟨⟨k', v⟩, he, rfl⟩
    exact ⟨v, get?_eq_some_iff.mpr he⟩
  · rintro ⟨v, hv⟩
    exact ⟨(k, v), get?_eq_some_iff.mp hv, rfl⟩

@[simp]
theorem mem_map {t : Table κ ν} {f : κ → ν → μ} {k : κ} : k ∈ t.map f ↔ k ∈ t := by
  rw [← mem_keys_iff, keys_map, mem_keys_iff]

theorem get?_filter_eq_some_iff {t : Table κ ν} {p : κ → ν → Bool} {k : κ} {v : ν} :
    (t.filter p).get? k = some v ↔ t.get? k = some v ∧ p k v = true := by
  rw [get?_eq_some_iff, get?_eq_some_iff]
  exact List.mem_filter

theorem mem_of_mem_filter {t : Table κ ν} {p : κ → ν → Bool} {k : κ} (h : k ∈ t.filter p) : k ∈ t := by
  obtain ⟨v, hv⟩ := mem_iff_get?.mp h
  exact mem_of_get? (get?_filter_eq_some_iff.mp hv).1

theorem erase_of_not_mem {t : Table κ ν} {k : κ} (h : k ∉ t) : t.erase k = t := by
  refine ext_entries (List.filter_eq_self.mpr fun e he => bne_iff_ne.mpr fun heq => h ?_)
  obtain rfl := LawfulEqCmp.eq_of_compare heq
  exact mem_of_get? (get?_eq_some_iff.mpr he)

variable [DecidableEq κ]

@[simp]
theorem mem_modify {t : Table κ ν} {k k' : κ} {f : ν → ν} : k' ∈ t.modify k f ↔ k' ∈ t := by
  rw [mem_iff_get?, mem_iff_get?, get?_modify]
  split
  · simp
  · rfl

variable [TransOrd κ]

@[simp]
theorem mem_insert {t : Table κ ν} {k k' : κ} {v : ν} :
    k' ∈ t.insert k v ↔ k' = k ∨ k' ∈ t := by
  rw [mem_iff_get?, mem_iff_get?, get?_insert]
  by_cases h : k = k'
  · simp [h]
  · simp [h, Ne.symm h]

@[simp]
theorem mem_erase {t : Table κ ν} {k k' : κ} : k' ∈ t.erase k ↔ k' ≠ k ∧ k' ∈ t := by
  rw [mem_iff_get?, mem_iff_get?, get?_erase]
  by_cases h : k = k'
  · simp [h]
  · simp [h, Ne.symm h]

theorem get?_insert_eq_some_iff {t : Table κ ν} {k k' : κ} {v v' : ν} :
    (t.insert k v).get? k' = some v' ↔ (k' = k ∧ v' = v) ∨ (k' ≠ k ∧ t.get? k' = some v') := by
  rw [get?_insert]
  by_cases h : k = k'
  · simp [h, eq_comm]
  · simp [h, Ne.symm h]

theorem get?_insert_eq_some_iff_of_not_mem {t : Table κ ν} {k k' : κ} {v v' : ν} (h : k ∉ t) :
    (t.insert k v).get? k' = some v' ↔ (k' = k ∧ v' = v) ∨ t.get? k' = some v' := by
  rw [get?_insert_eq_some_iff]
  refine or_congr_right (and_iff_right_of_imp ?_)
  rintro hk rfl
  exact h (mem_of_get? hk)

theorem get?_erase_eq_some_iff {t : Table κ ν} {k k' : κ} {v : ν} :
    (t.erase k).get? k' = some v ↔ k' ≠ k ∧ t.get? k' = some v := by
  rw [get?_erase]
  by_cases h : k = k'
  · simp [h]
  · simp [h, Ne.symm h]

/-- Putting back what a table holds at a key changes nothing about its keys. -/
theorem mem_insert_of_mem {t : Table κ ν} {k : κ} (h : k ∈ t) (v : ν) {k' : κ} :
    k' ∈ t.insert k v ↔ k' ∈ t := by
  rw [mem_insert]
  exact or_iff_right_of_imp fun he => he ▸ h

theorem get?_foldl_insert {l : List (κ × ν)} (hl : (l.map Prod.fst).Nodup) (t : Table κ ν) (k : κ) :
    (l.foldl (fun t e => t.insert e.1 e.2) t).get? k =
      (l.find? fun e => e.1 = k).elim (t.get? k) fun e => some e.2 := by
  induction l generalizing t with
  | nil => rfl
  | cons e l ih =>
    rw [List.map_cons, List.nodup_cons] at hl
    rw [List.foldl_cons, ih hl.2, get?_insert, List.find?_cons]
    by_cases h : e.1 = k
    · have hnone : l.find? (fun e => decide (e.1 = k)) = none := by
        rw [List.find?_eq_none]
        intro e' he' heq
        exact hl.1 (List.mem_map.mpr ⟨e', he', (of_decide_eq_true heq).trans h.symm⟩)
      simp [h, hnone]
    · simp [h]

theorem get?_ofList_of_mem {l : List (κ × ν)} (hl : (l.map Prod.fst).Nodup) {k : κ} {v : ν}
    (h : (k, v) ∈ l) : (ofList l).get? k = some v := by
  rw [ofList, get?_foldl_insert hl]
  cases hf : l.find? (fun e => decide (e.1 = k)) with
  | none =>
    have := List.find?_eq_none.mp hf (k, v) h
    simp at this
  | some e =>
    have he : e.1 = k := by simpa using List.find?_some hf
    have hmem := List.mem_of_find?_eq_some hf
    have heq : e = (k, v) := List.inj_on_of_nodup_map hl hmem h he
    simp [heq]

omit [LawfulEqOrd κ] [DecidableEq κ] in
theorem place_of_forall_lt {l : List (κ × ν)} {k : κ} (v : ν)
    (h : ∀ e ∈ l, compare e.1 k = .lt) : place k v l = l ++ [(k, v)] := by
  induction l with
  | nil => rfl
  | cons e l ih =>
    rw [List.forall_mem_cons] at h
    have hgt : compare k e.1 = .gt := OrientedCmp.gt_of_lt h.1
    rw [place, hgt]
    exact congrArg _ (ih h.2)

omit [DecidableEq κ] in
theorem entries_foldl_insert {l : List (κ × ν)} {t : Table κ ν}
    (h : (t.entries ++ l).Pairwise fun a b => compare a.1 b.1 = .lt) :
    (l.foldl (fun t e => t.insert e.1 e.2) t).entries = t.entries ++ l := by
  induction l generalizing t with
  | nil => exact (List.append_nil _).symm
  | cons e l ih =>
    have hlt := (List.pairwise_append.mp h).2.2
    have hplace : (t.insert e.1 e.2).entries = t.entries ++ [e] :=
      place_of_forall_lt e.2 fun e' he' => hlt e' he' e List.mem_cons_self
    have happend : t.entries ++ e :: l = (t.insert e.1 e.2).entries ++ l := by
      rw [hplace, List.append_assoc, List.singleton_append]
    rw [List.foldl_cons, happend]
    exact ih (happend ▸ h)

omit [DecidableEq κ] in
/-- A sorted list is the list of entries of its own table. -/
theorem entries_ofList {l : List (κ × ν)} (h : l.Pairwise fun a b => compare a.1 b.1 = .lt) :
    (ofList l).entries = l :=
  entries_foldl_insert h

theorem mem_ofList {l : List (κ × ν)} (hl : (l.map Prod.fst).Nodup) {k : κ} :
    k ∈ ofList l ↔ k ∈ l.map Prod.fst := by
  constructor
  · intro h
    obtain ⟨v, hv⟩ := mem_iff_get?.mp h
    rw [ofList, get?_foldl_insert hl] at hv
    cases hf : l.find? (fun e => decide (e.1 = k)) with
    | none => simp [hf] at hv
    | some e =>
      have he : e.1 = k := by simpa using List.find?_some hf
      exact List.mem_map.mpr ⟨e, List.mem_of_find?_eq_some hf, he⟩
  · intro h
    obtain ⟨⟨k', v⟩, he, rfl⟩ := List.mem_map.mp h
    exact mem_of_get? (get?_ofList_of_mem hl he)

end Lawful

/-! ## Values that are mapped -/

section Map

variable (t : Table κ ν) (f : ν → μ)

theorem map_id : (t.map fun _ v => v) = t := ext_entries (List.map_id t.entries)

theorem values_map : (t.map fun _ v => f v).values = t.values.map f := by
  simp only [values, map, List.map_map, Function.comp_def]

theorem erase_map (k : κ) : (t.map fun _ v => f v).erase k = (t.erase k).map fun _ v => f v :=
  ext_entries List.filter_map

theorem place_map (k : κ) (v : ν) (l : List (κ × ν)) :
    place k (f v) (l.map fun e => (e.1, f e.2)) = (place k v l).map fun e => (e.1, f e.2) := by
  induction l with
  | nil => rfl
  | cons hd tl ih =>
    simp only [List.map_cons, place]
    split <;> simp [ih]

theorem insert_map [TransOrd κ] [LawfulEqOrd κ] (k : κ) (v : ν) :
    (t.map fun _ v => f v).insert k (f v) = (t.insert k v).map fun _ v => f v :=
  ext_entries (place_map f k v t.entries)

theorem modify_map {g : ν → ν} {g' : μ → μ} (h : ∀ v, g' (f v) = f (g v)) (k : κ) :
    (t.map fun _ v => f v).modify k g' = (t.modify k g).map fun _ v => f v := by
  refine ext_entries ?_
  simp only [modify, map, List.map_map]
  refine List.map_congr_left fun e _ => ?_
  simp only [Function.comp_apply]
  split
  · rw [h]
  · rfl

theorem modify_eq_self {g : ν → ν} (h : ∀ v ∈ t.values, g v = v) (k : κ) : t.modify k g = t := by
  refine ext_entries ((List.map_congr_left fun e he => ?_).trans (List.map_id t.entries))
  simp only [h e.2 (List.mem_map_of_mem he), ite_self, id]

end Map

/-! ## Keys that are shifted -/

section Shift

theorem compare_add_right (a b n : Nat) : compare (a + n) (b + n) = compare a b := by
  simp only [Nat.compare_eq_ite_lt, Nat.add_lt_add_iff_right]

/-- Adds a number to every key. -/
def shift (t : Table Nat ν) (n : Nat) : Table Nat ν where
  entries := t.entries.map fun e => (e.1 + n, e.2)
  sorted := List.pairwise_map.mpr (t.sorted.imp fun h => (compare_add_right ..).trans h)

variable (t : Table Nat ν) (n : Nat)

theorem shift_zero : t.shift 0 = t := ext_entries (List.map_id t.entries)

theorem keys_shift : (t.shift n).keys = t.keys.map (· + n) := by
  simp only [keys, shift, List.map_map, Function.comp_def]

theorem values_shift : (t.shift n).values = t.values := by
  simp only [values, shift, List.map_map, Function.comp_def]

theorem find?_shift (k : Nat) (l : List (Nat × ν)) :
    find? (k + n) (l.map fun e => (e.1 + n, e.2)) = find? k l := by
  induction l with
  | nil => rfl
  | cons hd tl ih => simp only [List.map_cons, find?, compare_add_right, ih]

theorem get?_shift (k : Nat) : (t.shift n).get? (k + n) = t.get? k := find?_shift n k t.entries

theorem le_of_mem_shift {k : Nat} (h : k ∈ t.shift n) : n ≤ k := by
  rw [← mem_keys_iff, keys_shift] at h
  obtain ⟨k', -, rfl⟩ := List.mem_map.mp h
  exact Nat.le_add_left n k'

theorem place_shift (k : Nat) (v : ν) (l : List (Nat × ν)) :
    place (k + n) v (l.map fun e => (e.1 + n, e.2)) = (place k v l).map fun e => (e.1 + n, e.2) := by
  induction l with
  | nil => rfl
  | cons hd tl ih =>
    simp only [List.map_cons, place, compare_add_right]
    split <;> simp [ih]

theorem insert_shift (k : Nat) (v : ν) : (t.shift n).insert (k + n) v = (t.insert k v).shift n :=
  ext_entries (place_shift n k v t.entries)

theorem erase_shift (k : Nat) : (t.shift n).erase (k + n) = (t.erase k).shift n := by
  refine ext_entries (List.filter_map.trans ?_)
  simp only [Function.comp_def, compare_add_right, shift, erase]

theorem filter_shift (p : ν → Bool) :
    (t.shift n).filter (fun _ v => p v) = (t.filter fun _ v => p v).shift n :=
  ext_entries List.filter_map

end Shift

theorem keys_eq_range {t : Table Nat ν} {n : Nat} (h : ∀ k, k ∈ t ↔ k < n) :
    t.keys = List.range n := by
  have hperm : t.keys.Perm (List.range n) := by
    rw [List.perm_ext_iff_of_nodup t.nodup_keys List.nodup_range]
    intro k
    rw [mem_keys_iff, h, List.mem_range]
  have hsorted : t.keys.Pairwise (· ≤ ·) :=
    t.keys_sorted.imp fun hlt => (Nat.compare_eq_lt.mp hlt).le
  exact hperm.eq_of_pairwise' hsorted (List.pairwise_lt_range.imp Nat.le_of_lt)

end GpuCluster.Table
