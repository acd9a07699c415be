/-!
# Tables sorted by key

A table is a finite map whose entries stand in the order of their keys. The order is part of the
type, so that whatever is listed from a table depends on what it holds and not on how it was filled.
-/

namespace GpuCluster

open Std

structure Table (κ ν : Type) [Ord κ] where
  entries : List (κ × ν)
  sorted : entries.Pairwise fun a b => compare a.1 b.1 = .lt

namespace Table

variable {κ ν μ : Type} [Ord κ]

def empty : Table κ ν := ⟨[], .nil⟩

instance : Inhabited (Table κ ν) := ⟨empty⟩

def size (t : Table κ ν) : Nat := t.entries.length

def keys (t : Table κ ν) : List κ := t.entries.map (·.1)

def values (t : Table κ ν) : List ν := t.entries.map (·.2)

/-- The value at a key in a list of entries. -/
def find? (k : κ) : List (κ × ν) → Option ν
  | [] => none
  | (k', v) :: rest => if compare k k' = .eq then some v else find? k rest

def get? (t : Table κ ν) (k : κ) : Option ν := find? k t.entries

def contains (t : Table κ ν) (k : κ) : Bool := (t.get? k).isSome

instance : Membership κ (Table κ ν) := ⟨fun t k => t.contains k = true⟩

instance (t : Table κ ν) (k : κ) : Decidable (k ∈ t) :=
  inferInstanceAs (Decidable (t.contains k = true))

/-- Puts an entry in its place; an entry with the same key gives way. -/
def place (k : κ) (v : ν) : List (κ × ν) → List (κ × ν)
  | [] => [(k, v)]
  | (k', v') :: rest =>
    match compare k k' with
    | .lt => (k, v) :: (k', v') :: rest
    | .eq => (k, v) :: rest
    | .gt => (k', v') :: place k v rest

theorem mem_place {k : κ} {v : ν} {e : κ × ν} {l : List (κ × ν)} (h : e ∈ place k v l) :
    e = (k, v) ∨ e ∈ l := by
  induction l with
  | nil => simpa [place] using h
  | cons hd tl ih =>
    obtain ⟨k', v'⟩ := hd
    rw [place] at h
    split at h
    · simpa using h
    · rcases List.mem_cons.mp h with h | h
      · exact Or.inl h
      · exact Or.inr (List.mem_cons_of_mem _ h)
    · rcases List.mem_cons.mp h with h | h
      · exact Or.inr (h ▸ List.mem_cons_self)
      · exact (ih h).imp_right (List.mem_cons_of_mem _)

section Sorted

variable [TransOrd κ] [LawfulEqOrd κ]

theorem place_sorted (k : κ) (v : ν) {l : List (κ × ν)}
    (h : l.Pairwise fun a b => compare a.1 b.1 = .lt) :
    (place k v l).Pairwise fun a b => compare a.1 b.1 = .lt := by
  induction l with
  | nil => simp [place]
  | cons hd tl ih =>
    obtain ⟨k', v'⟩ := hd
    rw [List.pairwise_cons] at h
    obtain ⟨hhead, htail⟩ := h
    rw [place]
    split
    · rename_i hk
      refine List.pairwise_cons.mpr ⟨?_, List.pairwise_cons.mpr ⟨hhead, htail⟩⟩
      intro e he
      rcases List.mem_cons.mp he with rfl | he
      · exact hk
      · exact TransCmp.lt_trans hk (hhead e he)
    · rename_i hk
      have hkk := LawfulEqCmp.eq_of_compare hk
      subst hkk
      exact List.pairwise_cons.mpr ⟨hhead, htail⟩
    · rename_i hk
      refine List.pairwise_cons.mpr ⟨?_, ih htail⟩
      intro e he
      rcases mem_place he with rfl | he
      · exact OrientedCmp.lt_of_gt hk
      · exact hhead e he

def insert (t : Table κ ν) (k : κ) (v : ν) : Table κ ν :=
  ⟨place k v t.entries, place_sorted k v t.sorted⟩

/-- The table of a list of entries, a later entry replacing an earlier one with the same key. -/
def ofList (l : List (κ × ν)) : Table κ ν :=
  l.foldl (fun t e => t.insert e.1 e.2) empty

end Sorted

def erase (t : Table κ ν) (k : κ) : Table κ ν :=
  ⟨t.entries.filter fun e => compare k e.1 != .eq, t.sorted.filter _⟩

/-- The entries that pass a test. -/
def filter (t : Table κ ν) (p : κ → ν → Bool) : Table κ ν :=
  ⟨t.entries.filter fun e => p e.1 e.2, t.sorted.filter _⟩

/-- Applies a function to every value. -/
def map (t : Table κ ν) (f : κ → ν → μ) : Table κ μ :=
  ⟨t.entries.map fun e => (e.1, f e.1 e.2), List.pairwise_map.mpr t.sorted⟩

/-- Replaces the value at a key, if there is one. -/
def modify (t : Table κ ν) (k : κ) (f : ν → ν) : Table κ ν :=
  t.map fun k' v => if compare k k' = .eq then f v else v

theorem find?_place_self [TransOrd κ] (k : κ) (v : ν) (l : List (κ × ν)) :
    find? k (place k v l) = some v := by
  induction l with
  | nil => simp [place, find?]
  | cons hd tl ih =>
    obtain ⟨k', v'⟩ := hd
    rw [place]
    split
    · simp [find?]
    · simp [find?]
    · rename_i hk
      simp [find?, hk, ih]

theorem find?_place_of_ne [TransOrd κ] [LawfulEqOrd κ] {k k' : κ} (v : ν) (l : List (κ × ν))
    (h : k ≠ k') : find? k' (place k v l) = find? k' l := by
  have hne : compare k' k ≠ .eq := fun e => h (LawfulEqCmp.eq_of_compare e).symm
  induction l with
  | nil => simp [place, find?, hne]
  | cons hd tl ih =>
    obtain ⟨k'', v''⟩ := hd
    rw [place]
    split
    · simp [find?, hne]
    · rename_i hk
      have hkk := LawfulEqCmp.eq_of_compare hk
      subst hkk
      simp [find?, hne]
    · simp [find?, ih]

@[simp]
theorem get?_empty (k : κ) : (empty : Table κ ν).get? k = none := rfl

theorem find?_map [LawfulEqOrd κ] (f : κ → ν → μ) (k : κ) (l : List (κ × ν)) :
    find? k (l.map fun e => (e.1, f e.1 e.2)) = (find? k l).map (f k) := by
  induction l with
  | nil => rfl
  | cons hd tl ih =>
    obtain ⟨k', v'⟩ := hd
    rw [List.map_cons, find?, find?]
    split
    · rename_i hk
      rw [LawfulEqCmp.eq_of_compare hk]
      rfl
    · exact ih

theorem get?_map [LawfulEqOrd κ] (t : Table κ ν) (f : κ → ν → μ) (k : κ) :
    (t.map f).get? k = (t.get? k).map (f k) :=
  find?_map f k t.entries

section Lookup

variable [TransOrd κ] [LawfulEqOrd κ]

@[simp]
theorem get?_insert_self (t : Table κ ν) (k : κ) (v : ν) : (t.insert k v).get? k = some v :=
  find?_place_self k v t.entries

theorem get?_insert_of_ne (t : Table κ ν) {k k' : κ} (v : ν) (h : k ≠ k') :
    (t.insert k v).get? k' = t.get? k' :=
  find?_place_of_ne v t.entries h

theorem get?_insert [DecidableEq κ] (t : Table κ ν) (k k' : κ) (v : ν) :
    (t.insert k v).get? k' = if k = k' then some v else t.get? k' := by
  split
  · rename_i h
    subst h
    exact get?_insert_self t k v
  · rename_i h
    exact get?_insert_of_ne t v h

theorem find?_filter_ne (k k' : κ) (l : List (κ × ν)) :
    find? k' (l.filter fun e => compare k e.1 != .eq) =
      if compare k k' = .eq then none else find? k' l := by
  induction l with
  | nil => simp [find?]
  | cons hd tl ih =>
    obtain ⟨k'', v''⟩ := hd
    by_cases hk : compare k k'' = .eq
    · have hkk := LawfulEqCmp.eq_of_compare hk
      subst hkk
      rw [List.filter_cons_of_neg (by simp), ih]
      by_cases hk' : compare k k' = .eq
      · simp [hk']
      · have : compare k' k ≠ .eq := fun e => hk' (OrientedCmp.eq_comm.mp e)
        simp [hk', find?, this]
    · rw [List.filter_cons_of_pos (by simpa using hk)]
      by_cases hk' : compare k k' = .eq
      · have hkk := LawfulEqCmp.eq_of_compare hk'
        subst hkk
        simpa [find?, hk] using ih
      · simp [find?, hk', ih]

theorem get?_erase [DecidableEq κ] (t : Table κ ν) (k k' : κ) :
    (t.erase k).get? k' = if k = k' then none else t.get? k' := by
  have h := find?_filter_ne k k' t.entries
  simpa [get?, erase, LawfulEqCmp.compare_eq_iff_eq] using h

omit [TransOrd κ] in
theorem get?_modify [DecidableEq κ] (t : Table κ ν) (k k' : κ) (f : ν → ν) :
    (t.modify k f).get? k' = if k = k' then (t.get? k').map f else t.get? k' := by
  rw [modify, get?_map]
  simp only [LawfulEqCmp.compare_eq_iff_eq]
  split <;> simp

end Lookup

theorem keys_map (t : Table κ ν) (f : κ → ν → μ) : (t.map f).keys = t.keys := by
  simp [keys, map, Function.comp_def]

end Table

end GpuCluster
