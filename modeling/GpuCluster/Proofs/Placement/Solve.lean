import Mathlib
import GpuCluster.Proofs.Placement.FirstFit
import GpuCluster.Proofs.Placement.Search

/-!
# How a request is solved

The checks that come before the search turn away no request that has a packing: no shard of a packing
is larger than the free memory of its device, and the shards of a packing have together no more bytes
than the devices have free, also when both totals are reported as the largest byte count. A request
that passes all checks is solved by an arrangement, and every arrangement is a packing.
-/

namespace GpuCluster.Placement

variable {policy : PlacementPolicy} {r : Request} {pool : List PoolDevice}

/-- What a request asks of a device. -/
structure Request.Admits (r : Request) (d : PoolDevice) : Prop where
  candidate : r.candidates = [] ∨ d.id ∈ r.candidates
  group : ∀ group, r.group = some group → d.group = some group
  precision : ∀ p, r.precision = some p → p ∈ d.precisions

theorem Request.isEligible_iff {d : PoolDevice} : r.isEligible d = true ↔ r.Admits d := by
  have hcandidate : r.isCandidate d = true ↔ r.candidates = [] ∨ d.id ∈ r.candidates := by
    simp [isCandidate]
  have hgroup : r.inGroup d = true ↔ ∀ group, r.group = some group → d.group = some group := by
    cases h : r.group <;> simp [inGroup, h]
  have hprecision : r.hasPrecision d = true ↔ ∀ p, r.precision = some p → p ∈ d.precisions := by
    cases h : r.precision <;> simp [hasPrecision, h]
  rw [isEligible, Bool.and_eq_true, Bool.and_eq_true, hcandidate, hgroup, hprecision]
  exact ⟨fun ⟨⟨hc, hg⟩, hp⟩ => ⟨hc, hg, hp⟩, fun h => ⟨⟨h.candidate, h.group⟩, h.precision⟩⟩

/-- The eligible devices, in the order in which they are tried. -/
def contenders (r : Request) (pool : List PoolDevice) : List PoolDevice :=
  tryOrder (pool.filter r.isEligible)

def contendingFree (r : Request) (pool : List PoolDevice) : List Nat :=
  (contenders r pool).map (·.free)

theorem tryOrder_perm (devices : List PoolDevice) : (tryOrder devices).Perm devices :=
  List.mergeSort_perm ..

theorem mem_contenders {d : PoolDevice} : d ∈ contenders r pool ↔ d ∈ pool ∧ r.Admits d := by
  rw [contenders, (tryOrder_perm _).mem_iff, List.mem_filter, Request.isEligible_iff]

theorem nodup_ids_contenders (h : (pool.map (·.id)).Nodup) :
    ((contenders r pool).map (·.id)).Nodup :=
  (((tryOrder_perm _).map _).nodup_iff).mpr (h.sublist (List.filter_sublist.map _))

theorem filter_isEligible :
    ((pool.filter r.isCandidate).filter r.inGroup).filter r.hasPrecision =
      pool.filter r.isEligible := by
  rw [List.filter_filter, List.filter_filter]
  exact List.filter_congr fun d _ => by
    rw [Request.isEligible, Bool.and_comm, Bool.and_comm (r.hasPrecision d), Bool.and_assoc]

theorem eq_of_eligible_eq_ok {devices : List PoolDevice} (h : eligible r pool = .ok devices) :
    devices = pool.filter r.isEligible := by
  rw [← filter_isEligible]
  simp only [eligible] at h
  split at h
  · cases h
  · split at h
    · cases h
    · split at h
      · cases h
      · exact (Except.ok.inj h).symm

theorem filter_eq_nil_of_eligible_eq_error {failure : Failure}
    (h : eligible r pool = .error failure) : pool.filter r.isEligible = [] := by
  rw [← filter_isEligible]
  simp only [eligible] at h
  split at h
  · rename_i hnone
    rw [List.isEmpty_iff.mp hnone]
    rfl
  · split at h
    · rename_i hnone
      rw [List.isEmpty_iff.mp hnone]
      rfl
    · split at h
      · rename_i hnone
        exact List.isEmpty_iff.mp hnone
      · cases h

/-! ## Arrangements -/

theorem isPacking_of_arrange {timeoutMs : Nat} {heterogeneous : Bool} {sizes free : List Nat}
    {placed : List (Nat × Nat)} {method : Method}
    (h : arrange timeoutMs heterogeneous sizes free = (some placed, method)) :
    IsPacking (sizes.getD · 0) free (List.range sizes.length) placed := by
  have hfallback : ∀ {found : Option (List (Nat × Nat)) × Method},
      searchOrFirstFit timeoutMs sizes free = found → found.1 = some placed →
      IsPacking (sizes.getD · 0) free (List.range sizes.length) placed := by
    intro found hfound hplaced
    rw [searchOrFirstFit] at hfound
    split at hfound
    · subst hfound
      exact isPacking_of_firstFitAll? hplaced
    · subst hfound
      exact isPacking_of_search? hplaced
  rw [arrange] at h
  split at h
  · exact hfallback h rfl
  · split at h
    · rename_i hfit
      rw [← (Option.some.inj (Prod.mk.inj h).1)]
      exact isPacking_of_firstFitAll? hfit
    · exact hfallback h rfl

theorem exists_arrange_of_isPacking {timeoutMs : Nat} (ht : timeoutMs ≠ 0) (heterogeneous : Bool)
    {sizes free : List Nat} {placed : List (Nat × Nat)}
    (h : IsPacking (sizes.getD · 0) free (List.range sizes.length) placed) :
    ∃ found method, arrange timeoutMs heterogeneous sizes free = (some found, method) := by
  obtain ⟨found, hfound⟩ := exists_search?_of_isPacking h
  have hsearch : searchOrFirstFit timeoutMs sizes free = (some found, .search) := by
    rw [searchOrFirstFit, if_neg ht, hfound]
  rw [arrange]
  split
  · exact ⟨found, .search, hsearch⟩
  · split
    · exact ⟨_, _, rfl⟩
    · exact ⟨found, .search, hsearch⟩

/-! ## Checks before the search -/

theorem le_largest {n : Nat} {bytes : List Nat} (h : n ∈ bytes) : n ≤ largest bytes := by
  have key : ∀ (l : List Nat) (m : Nat), m ≤ l.foldl max m ∧ ∀ n ∈ l, n ≤ l.foldl max m := by
    intro l
    induction l with
    | nil => simp
    | cons a l ih =>
      intro m
      obtain ⟨hm, hl⟩ := ih (max m a)
      refine ⟨(Nat.le_max_left ..).trans hm, fun n hn => ?_⟩
      rcases List.mem_cons.mp hn with rfl | hn
      · exact (Nat.le_max_right ..).trans hm
      · exact hl n hn
  exact (key bytes 0).2 n h

theorem total_eq_sum (bytes : List Nat) : Number.total bytes = bytes.sum := by
  induction bytes with
  | nil => rfl
  | cons n bytes ih => rw [Number.total_cons, List.sum_cons, ih]

theorem reportedSum_mono {a b : List Nat} (h : a.sum ≤ b.sum) : reportedSum a ≤ reportedSum b := by
  rw [reportedSum, reportedSum, total_eq_sum, total_eq_sum]
  exact min_le_min_right _ h

theorem sum_takeFrom {free : List Nat} {position n : Nat} (hpos : position < free.length)
    (hroom : n ≤ free.getD position 0) : (takeFrom free position n).sum + n = free.sum := by
  induction free generalizing position with
  | nil => cases hpos
  | cons a free ih =>
    cases position with
    | zero =>
      have hroom' : n ≤ a := hroom
      rw [takeFrom, List.modify_zero_cons, List.sum_cons, List.sum_cons]
      omega
    | succ position =>
      have hrest := ih (Nat.lt_of_succ_lt_succ hpos) hroom
      rw [takeFrom, List.modify_succ_cons, List.sum_cons, List.sum_cons]
      rw [takeFrom] at hrest
      omega

namespace IsPacking

variable {size : Nat → Nat} {free : List Nat} {shards : List Nat} {placed : List (Nat × Nat)}

theorem size_le_largest (h : IsPacking size free shards placed) {shard : Nat} (hs : shard ∈ shards) :
    size shard ≤ largest free := by
  obtain ⟨position, _, hpos, hroom, -⟩ :=
    (h.of_perm (List.perm_cons_erase hs)).exists_of_cons
  rw [List.getD_eq_getElem _ _ hpos] at hroom
  exact hroom.trans (le_largest (List.getElem_mem hpos))

theorem sum_le (h : IsPacking size free shards placed) : (shards.map size).sum ≤ free.sum := by
  induction shards generalizing free placed with
  | nil => exact Nat.zero_le _
  | cons shard shards ih =>
    obtain ⟨position, rest, hpos, hroom, hrest⟩ := h.exists_of_cons
    rw [List.map_cons, List.sum_cons, ← sum_takeFrom hpos hroom, Nat.add_comm]
    exact Nat.add_le_add_right (ih hrest) _

end IsPacking

theorem map_getD_range (sizes : List Nat) :
    (List.range sizes.length).map (sizes.getD · 0) = sizes := by
  apply List.ext_getElem (by simp)
  intro k _ hk
  simp [hk]

theorem oversized_eq_nil {sizes : List Nat} {n : Nat} (h : ∀ k < sizes.length, sizes.getD k 0 ≤ n) :
    oversized sizes n = [] := by
  rw [oversized, List.filterMap_eq_nil_iff]
  intro s hs
  have hlt : s.index < sizes.length := by
    rw [← List.mem_range, ← index_shardsOf]
    exact List.mem_map_of_mem hs
  rw [if_neg (Nat.not_lt.mpr ((sized_shardsOf sizes s hs).trans_le (h _ hlt)))]

/-! ## Solutions and refusals -/

/-- A request with shards is solved by an arrangement on the eligible devices, or infeasible. -/
theorem solve_cases (policy : PlacementPolicy) (pool : List PoolDevice) (hn : r.sizes ≠ []) :
    (∃ failure, solve policy r pool = .error (.infeasible failure)) ∨
    ∃ placed method heterogeneous,
      arrange policy.timeoutMs heterogeneous r.sizes (contendingFree r pool) =
        (some placed, method) ∧
      solve policy r pool =
        .ok (.of (named (contenders r pool) placed) r.sizes method heterogeneous) := by
  rw [solve, if_neg (by simpa using hn)]
  cases he : eligible r pool with
  | error failure => exact Or.inl ⟨failure, rfl⟩
  | ok devices =>
    obtain rfl := eq_of_eligible_eq_ok he
    dsimp only
    split
    · exact Or.inl ⟨_, rfl⟩
    · split
      · exact Or.inl ⟨_, rfl⟩
      · split
        · rename_i placed method harrange
          exact Or.inr ⟨placed, method, _, harrange, rfl⟩
        · exact Or.inl ⟨_, rfl⟩

theorem of_solve_eq_ok {a : Assignment} (h : solve policy r pool = .ok a) :
    ∃ placed method heterogeneous,
      IsPacking (r.sizes.getD · 0) (contendingFree r pool) (List.range r.sizes.length) placed ∧
      a = .of (named (contenders r pool) placed) r.sizes method heterogeneous := by
  have hn : r.sizes ≠ [] := by
    intro hnil
    simp [solve, hnil] at h
  rcases solve_cases policy pool hn with ⟨failure, herror⟩ | ⟨placed, method, het, harrange, hok⟩
  · rw [herror] at h
    cases h
  · rw [hok] at h
    exact ⟨placed, method, het, isPacking_of_arrange harrange, (Except.ok.inj h).symm⟩

/-- A request that has a packing passes all checks and is left to the arrangement. -/
theorem solve_of_arrange (hn : r.sizes ≠ []) {placed : List (Nat × Nat)}
    (h : IsPacking (r.sizes.getD · 0) (contendingFree r pool) (List.range r.sizes.length) placed)
    {found : List (Nat × Nat)} {method : Method}
    (harrange : arrange policy.timeoutMs
      (isHeterogeneous (contenders r pool) policy.memoryTolerance policy.utilizationTolerance)
      r.sizes (contendingFree r pool) = (some found, method)) :
    solve policy r pool = .ok (.of (named (contenders r pool) found) r.sizes method
      (isHeterogeneous (contenders r pool) policy.memoryTolerance policy.utilizationTolerance)) := by
  rw [solve, if_neg (by simpa using hn)]
  cases he : eligible r pool with
  | error failure =>
    -- Without an eligible device the first shard would have no position.
    have hfree : contendingFree r pool = [] := by
      rw [contendingFree, contenders, filter_eq_nil_of_eligible_eq_error he,
        (tryOrder_perm []).eq_nil, List.map_nil]
    have hzero : 0 ∈ List.range r.sizes.length :=
      List.mem_range.mpr (List.length_pos_iff.mpr hn)
    obtain ⟨position, _, hpos, -⟩ := (h.of_perm (List.perm_cons_erase hzero)).exists_of_cons
    rw [hfree] at hpos
    cases hpos
  | ok devices =>
    obtain rfl := eq_of_eligible_eq_ok he
    have hlarge : oversized r.sizes (largest (contendingFree r pool)) = [] :=
      oversized_eq_nil fun k hk => h.size_le_largest (List.mem_range.mpr hk)
    have htotal : r.totalBytes ≤ totalFree (contenders r pool) := by
      have hsum := h.sum_le
      rw [map_getD_range] at hsum
      exact reportedSum_mono hsum
    simp only [contendingFree, contenders] at hlarge htotal harrange
    dsimp only
    rw [hlarge, if_neg (by simp), if_neg (Nat.not_lt.mpr htotal), harrange]
    rfl

theorem exists_solve_of_isPacking (hn : r.sizes ≠ []) (ht : policy.timeoutMs ≠ 0)
    {placed : List (Nat × Nat)}
    (h : IsPacking (r.sizes.getD · 0) (contendingFree r pool) (List.range r.sizes.length) placed) :
    ∃ a, solve policy r pool = .ok a := by
  obtain ⟨found, method, harrange⟩ := exists_arrange_of_isPacking ht
    (isHeterogeneous (contenders r pool) policy.memoryTolerance policy.utilizationTolerance) h
  exact ⟨_, solve_of_arrange hn h harrange⟩

end GpuCluster.Placement
