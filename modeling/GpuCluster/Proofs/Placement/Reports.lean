import Mathlib
import GpuCluster.Proofs.Placement.Seating
import GpuCluster.Proofs.Placement.TimeLimit

/-!
# Reports of what could not be placed

A request is refused in one of three forms: no device is eligible, and all shards are listed; some shards
are larger than any device, and those are listed; or first fit has run, and what it leaves over is listed.
A report is never empty, and each of its lines is true of the request. What first fit leaves over does not
fit on any device after the pass, and what it does not leave over is placed.
-/

namespace GpuCluster.Placement

variable {policy : PlacementPolicy} {r : Request} {pool : List PoolDevice} {f : Failure}
  {sizes free : List Nat}

/-! ## The three forms of a refusal -/

/-- How a request is refused. -/
inductive Refuses (r : Request) (pool : List PoolDevice) : Failure → Prop where
  | ineligible (reason : Reason) (available : Nat) (hnone : contenders r pool = [])
      (hreason : ∀ n, reason ≠ .insufficientMemory n) : Refuses r pool (.ofAll r reason available)
  | tooLarge (hsome : contenders r pool ≠ [])
      (hlarge : oversized r.sizes (largest (contendingFree r pool)) ≠ []) :
      Refuses r pool ⟨oversized r.sizes (largest (contendingFree r pool)), r.totalBytes,
        totalFree (contenders r pool)⟩
  | leftOver (hsome : contenders r pool ≠ [])
      (hlarge : oversized r.sizes (largest (contendingFree r pool)) = [])
      (hleft : refusedShards (firstFit r.sizes (contendingFree r pool)) r.sizes 0 ≠ []) :
      Refuses r pool ⟨refusedShards (firstFit r.sizes (contendingFree r pool)) r.sizes 0,
        r.totalBytes, totalFree (contenders r pool)⟩

theorem contenders_eq_nil_iff : contenders r pool = [] ↔ pool.filter r.isEligible = [] := by
  rw [contenders, ← List.length_eq_zero_iff, (tryOrder_perm _).length_eq, List.length_eq_zero_iff]

theorem exists_ofAll_of_eligible_eq_error (h : eligible r pool = .error f) :
    ∃ reason available, f = .ofAll r reason available ∧ ∀ n, reason ≠ .insufficientMemory n := by
  simp only [eligible] at h
  split at h
  · exact ⟨_, _, (Except.error.inj h).symm, fun _ hreason => by cases hreason⟩
  · split at h
    · exact ⟨_, _, (Except.error.inj h).symm, fun _ hreason => by cases hreason⟩
    · split at h
      · exact ⟨_, _, (Except.error.inj h).symm, fun _ hreason => by cases hreason⟩
      · cases h

theorem filter_inGroup_of_none (devices : List PoolDevice) (h : r.group = none) :
    devices.filter r.inGroup = devices :=
  List.filter_eq_self.mpr fun d _ => by simp [Request.inGroup, h]

theorem filter_hasPrecision_of_none (devices : List PoolDevice) (h : r.precision = none) :
    devices.filter r.hasPrecision = devices :=
  List.filter_eq_self.mpr fun d _ => by simp [Request.hasPrecision, h]

theorem ne_nil_of_eligible_eq_ok {devices : List PoolDevice} (h : eligible r pool = .ok devices) :
    devices ≠ [] := by
  simp only [eligible] at h
  split at h
  · cases h
  · rename_i hcandidates
    split at h
    · cases h
    · rename_i hgroup
      have hin : (pool.filter r.isCandidate).filter r.inGroup ≠ [] := by
        intro hempty
        cases hr : r.group with
        | none =>
          rw [filter_inGroup_of_none _ hr] at hempty
          exact hcandidates (List.isEmpty_iff.mpr hempty)
        | some group => exact hgroup group hr (List.isEmpty_iff.mpr hempty)
      split at h
      · cases h
      · rename_i hprecision
        rw [← Except.ok.inj h]
        intro hempty
        cases hr : r.precision with
        | none =>
          rw [filter_hasPrecision_of_none _ hr] at hempty
          exact hin hempty
        | some p => exact hprecision p hr (List.isEmpty_iff.mpr hempty)

theorem exists_solve_of_firstFitAll? (policy : PlacementPolicy) (hn : r.sizes ≠ []) {placed : List (Nat × Nat)}
    (h : firstFitAll? r.sizes (contendingFree r pool) = some placed) :
    ∃ a, solve policy r pool = .ok a := by
  by_cases ht : policy.timeoutMs = 0
  · exact ⟨_, solve_of_firstFitAll? hn ht h⟩
  · exact exists_solve_of_isPacking hn ht (isPacking_of_firstFitAll? h)

theorem sizes_ne_nil_of_infeasible (h : solve policy r pool = .error (.infeasible f)) :
    r.sizes ≠ [] := by
  intro hnil
  simp [solve, hnil] at h

theorem refuses_of_solve_eq_error (h : solve policy r pool = .error (.infeasible f)) :
    Refuses r pool f := by
  have hn := sizes_ne_nil_of_infeasible h
  have hrefusal := eq_refusal_of_solve_eq_error h
  rw [refusal, if_neg (by simpa using hn)] at hrefusal
  cases he : eligible r pool with
  | error failure =>
    rw [he] at hrefusal
    obtain rfl := Refusal.infeasible.inj hrefusal
    obtain ⟨reason, available, rfl, hreason⟩ := exists_ofAll_of_eligible_eq_error he
    exact .ineligible reason available
      (contenders_eq_nil_iff.mpr (filter_eq_nil_of_eligible_eq_error he)) hreason
  | ok devices =>
    have hsome : contenders r pool ≠ [] := fun hnil =>
      ne_nil_of_eligible_eq_ok he ((eq_of_eligible_eq_ok he).trans (contenders_eq_nil_iff.mp hnil))
    rw [he] at hrefusal
    obtain rfl := Refusal.infeasible.inj hrefusal
    by_cases hlarge : oversized r.sizes (largest (contendingFree r pool)) = []
    · rw [if_pos (by simpa using hlarge)]
      refine .leftOver hsome hlarge fun hleft => ?_
      -- First fit would have placed all shards, and then the request is not refused.
      obtain ⟨a, ha⟩ := exists_solve_of_firstFitAll? policy hn (if_pos (List.isEmpty_iff.mpr hleft))
      rw [ha] at h
      cases h
    · rw [if_neg (by simpa using hlarge)]
      exact .tooLarge hsome hlarge

/-! ## The lines of a report -/

/-- Shards in their order, each with its size and, where memory is the reason, with too little of it. -/
structure Lists (sizes : List Nat) (unplaced : List Unplaced) : Prop where
  increasing : (unplaced.map (·.index)).Pairwise (· < ·)
  bytes : ∀ u ∈ unplaced, sizes[u.index]? = some u.bytes
  short : ∀ u ∈ unplaced, ∀ n, u.reason = .insufficientMemory n → n < u.bytes

theorem Lists.ofAll {reason : Reason} (available : Nat) (h : ∀ n, reason ≠ .insufficientMemory n) :
    Lists r.sizes (Failure.ofAll r reason available).unplaced where
  increasing := by
    have hindices : (r.sizes.mapIdx fun index bytes => Unplaced.mk index bytes reason).map (·.index) =
        List.range r.sizes.length := List.ext_getElem (by simp) (by simp)
    exact hindices ▸ List.pairwise_lt_range
  bytes := by
    intro u hu
    obtain ⟨i, hi, rfl⟩ := List.mem_mapIdx.mp hu
    exact List.getElem?_eq_getElem hi
  short := by
    intro u hu n hn
    obtain ⟨i, hi, rfl⟩ := List.mem_mapIdx.mp hu
    exact absurd hn (h n)

theorem mem_shardsOf {s : Shard} : s ∈ shardsOf sizes ↔ sizes[s.index]? = some s.size := by
  rw [shardsOf, List.mem_mapIdx, List.getElem?_eq_some_iff]
  constructor
  · rintro ⟨i, hi, rfl⟩
    exact ⟨hi, rfl⟩
  · rintro ⟨hi, hsize⟩
    exact ⟨s.index, hi, by rw [hsize]⟩

theorem mem_oversized {u : Unplaced} {n : Nat} :
    u ∈ oversized sizes n ↔
      sizes[u.index]? = some u.bytes ∧ n < u.bytes ∧ u.reason = .insufficientMemory n := by
  rw [oversized, List.mem_filterMap]
  constructor
  · rintro ⟨s, hs, hu⟩
    split at hu
    · rename_i hlarge
      obtain rfl := Option.some.inj hu
      exact ⟨mem_shardsOf.mp hs, hlarge, rfl⟩
    · cases hu
  · rintro ⟨hs, hlarge, hreason⟩
    refine ⟨⟨u.index, u.bytes⟩, mem_shardsOf.mpr hs, ?_⟩
    rw [if_pos hlarge, ← hreason]

theorem Lists.oversized (sizes : List Nat) (n : Nat) : Lists sizes (oversized sizes n) where
  increasing := by
    rw [Placement.oversized, List.pairwise_map, List.pairwise_filterMap]
    have hshards : (shardsOf sizes).Pairwise fun s t => s.index < t.index :=
      List.pairwise_map.mp (index_shardsOf sizes ▸ List.pairwise_lt_range)
    refine hshards.imp fun hlt u hu v hv => ?_
    split at hu <;> split at hv <;> cases hu <;> cases hv
    exact hlt
  bytes u hu := (mem_oversized.mp hu).1
  short u hu k hk := by
    obtain ⟨-, hlarge, hreason⟩ := mem_oversized.mp hu
    rwa [← Reason.insufficientMemory.inj (hreason.symm.trans hk)]

theorem largest_mem (hfree : free ≠ []) : largest free ∈ free := by
  obtain ⟨n, free, rfl⟩ := List.exists_cons_of_ne_nil hfree
  rw [largest, List.foldl_cons, Nat.zero_max]
  exact List.max?_mem List.max?_cons'

theorem largest_lt_iff (hfree : free ≠ []) {n : Nat} : largest free < n ↔ ∀ m ∈ free, m < n :=
  ⟨fun h _ hm => (le_largest hm).trans_lt h, fun h => h _ (largest_mem hfree)⟩

/-- A shard is larger than the free memory of every eligible device. -/
def TooLarge (r : Request) (pool : List PoolDevice) (i : Fin r.sizes.length) : Prop :=
  ∀ d ∈ pool, r.Admits d → d.free < r.sizes.get i

theorem mem_indices_oversized (hsome : contenders r pool ≠ []) {i : Fin r.sizes.length} :
    i.val ∈ (oversized r.sizes (largest (contendingFree r pool))).map (·.index) ↔
      TooLarge r pool i := by
  have hlarge : TooLarge r pool i ↔ largest (contendingFree r pool) < r.sizes.get i := by
    rw [largest_lt_iff (by simpa [contendingFree] using hsome), contendingFree, List.forall_mem_map]
    simp only [mem_contenders, and_imp, TooLarge]
  rw [hlarge, List.mem_map]
  constructor
  · rintro ⟨u, hu, hindex⟩
    obtain ⟨hsize, hlt, -⟩ := mem_oversized.mp hu
    rw [hindex, List.getElem?_eq_getElem i.isLt] at hsize
    rwa [List.get_eq_getElem, Option.some.inj hsize]
  · intro hlt
    exact ⟨⟨i, r.sizes[i], .insufficientMemory _⟩,
      mem_oversized.mpr ⟨List.getElem?_eq_getElem i.isLt, hlt, rfl⟩, rfl⟩

theorem oversized_eq_nil_iff (hsome : contenders r pool ≠ []) :
    oversized r.sizes (largest (contendingFree r pool)) = [] ↔ ∀ i, ¬TooLarge r pool i := by
  simp only [← mem_indices_oversized hsome]
  constructor
  · intro hnil i
    simp [hnil]
  · intro hnone
    refine List.eq_nil_iff_forall_not_mem.mpr fun u hu => ?_
    obtain ⟨hlt, -⟩ := List.getElem?_eq_some_iff.mp (mem_oversized.mp hu).1
    exact hnone ⟨u.index, hlt⟩ (List.mem_map_of_mem hu)

/-! ## What first fit leaves over -/

theorem mem_refusedShards {fates : List Fate} {start : Nat} {u : Unplaced} :
    u ∈ refusedShards fates sizes start ↔
      ∃ k n, u.index = start + k ∧ sizes[k]? = some u.bytes ∧ fates[k]? = some (.refused n) ∧
        u.reason = .insufficientMemory n := by
  induction fates generalizing sizes start with
  | nil => simp [refusedShards]
  | cons fate fates ih =>
    cases sizes with
    | nil => simp [refusedShards]
    | cons size sizes =>
      have hshift : ∀ k, (u.index = start + (k + 1)) = (u.index = start + 1 + k) :=
        fun k => propext (by omega)
      rw [← Nat.or_exists_add_one]
      simp only [List.getElem?_cons_zero, List.getElem?_cons_succ, hshift]
      cases fate with
      | placed position =>
        rw [refusedShards, ih]
        simp
      | refused largestFree =>
        obtain ⟨index, bytes, reason⟩ := u
        rw [refusedShards, List.mem_cons, ih]
        simp [eq_comm]

theorem pairwise_refusedShards (fates : List Fate) (sizes : List Nat) (start : Nat) :
    ((refusedShards fates sizes start).map (·.index)).Pairwise (· < ·) := by
  induction fates generalizing sizes start with
  | nil => simp [refusedShards]
  | cons fate fates ih =>
    cases sizes with
    | nil => simp [refusedShards]
    | cons size sizes =>
      cases fate with
      | placed position => exact ih sizes (start + 1)
      | refused largestFree =>
        rw [refusedShards, List.map_cons, List.pairwise_cons]
        refine ⟨fun index hindex => ?_, ih sizes (start + 1)⟩
        obtain ⟨u, hu, rfl⟩ := List.mem_map.mp hindex
        obtain ⟨k, n, heq, -⟩ := mem_refusedShards.mp hu
        change start < u.index
        omega

theorem lt_of_findIdx?_eq_none {n : Nat} (hfree : free ≠ []) (h : free.findIdx? (n ≤ ·) = none) :
    largest free < n := by
  rw [List.findIdx?_eq_none_iff] at h
  simpa using h (largest free) (largest_mem hfree)

/-- What was largest when a shard was refused is smaller than the shard. -/
theorem lt_of_refused {k n size : Nat} (hfree : free ≠ [])
    (h : (firstFit sizes free)[k]? = some (.refused n)) (hsize : sizes[k]? = some size) :
    n < size := by
  induction sizes generalizing free k with
  | nil => cases hsize
  | cons first sizes ih =>
    rw [firstFit] at h
    cases hfound : free.findIdx? (first ≤ ·) with
    | some position =>
      rw [hfound] at h
      cases k with
      | zero => cases h
      | succ k =>
        refine ih (fun hnil => hfree ?_) h hsize
        rw [← List.length_eq_zero_iff, ← length_takeFrom free position first, hnil]
        rfl
    | none =>
      rw [hfound] at h
      cases k with
      | zero =>
        obtain rfl := Fate.refused.inj (Option.some.inj h)
        obtain rfl := Option.some.inj hsize
        exact lt_of_findIdx?_eq_none hfree hfound
      | succ k => exact ih hfree h hsize

theorem Lists.refusedShards (sizes : List Nat) (hfree : free ≠ []) :
    Lists sizes (refusedShards (firstFit sizes free) sizes 0) where
  increasing := pairwise_refusedShards _ _ _
  bytes u hu := by
    obtain ⟨k, n, hindex, hsize, -⟩ := mem_refusedShards.mp hu
    rwa [hindex, Nat.zero_add]
  short u hu m hm := by
    obtain ⟨k, n, -, hsize, hfate, hreason⟩ := mem_refusedShards.mp hu
    obtain rfl := Reason.insufficientMemory.inj (hreason.symm.trans hm)
    exact lt_of_refused hfree hfate hsize

theorem Refuses.lists (h : Refuses r pool f) : Lists r.sizes f.unplaced := by
  cases h with
  | ineligible reason available hnone hreason => exact .ofAll available hreason
  | tooLarge hsome hlarge => exact .oversized r.sizes _
  | leftOver hsome hlarge hleft => exact .refusedShards r.sizes (by simpa [contendingFree] using hsome)

theorem Refuses.unplaced_ne_nil (h : Refuses r pool f) (hn : r.sizes ≠ []) : f.unplaced ≠ [] := by
  cases h with
  | ineligible reason available hnone hreason => simpa [Failure.ofAll] using hn
  | tooLarge hsome hlarge => exact hlarge
  | leftOver hsome hlarge hleft => exact hleft

theorem Refuses.required_eq (h : Refuses r pool f) : f.required = min r.sizes.sum maxBytes := by
  have htotal : r.totalBytes = min r.sizes.sum maxBytes := by
    rw [Request.totalBytes, reportedSum, total_eq_sum]
  cases h <;> exact htotal

theorem mem_indices_refusedShards {i : Fin sizes.length} :
    i.val ∈ (refusedShards (firstFit sizes free) sizes 0).map (·.index) ↔
      Seating.ofFirstFit sizes free i = none := by
  rw [Seating.ofFirstFit_eq_none_iff, List.mem_map]
  constructor
  · rintro ⟨u, hu, hindex⟩
    obtain ⟨k, n, hk, -, hfate, -⟩ := mem_refusedShards.mp hu
    obtain rfl : k = i := by omega
    exact ⟨n, hfate⟩
  · rintro ⟨n, hfate⟩
    exact ⟨⟨i, sizes[i], .insufficientMemory n⟩, mem_refusedShards.mpr
      ⟨i, n, (Nat.zero_add _).symm, List.getElem?_eq_getElem i.isLt, hfate, rfl⟩, rfl⟩

/-! ## The report as a whole -/

theorem totalFree_contenders :
    totalFree (contenders r pool) = min ((pool.filter r.isEligible).map (·.free)).sum maxBytes := by
  have hperm := (tryOrder_perm (pool.filter r.isEligible)).map (·.free)
  rw [totalFree, reportedSum, total_eq_sum, contenders, hperm.sum_eq]

/--
A report is never empty. It lists shards of the request in increasing order, each with its size and, where
memory is the reason, with less of it than the shard needs. When some device is eligible and every shard
fits on one, the shards that are not listed are those of first fit, and the others are larger than what is
left on any eligible device after that pass.
-/
theorem reports_are_accurate (h : solve policy r pool = .error (.infeasible f)) :
    f.unplaced ≠ [] ∧ Lists r.sizes f.unplaced ∧ f.required = min r.sizes.sum maxBytes ∧
    ((∃ d ∈ pool, r.Admits d) → (∀ i, ¬TooLarge r pool i) →
      f.available = min ((pool.filter r.isEligible).map (·.free)).sum maxBytes ∧
      ∃ seat : Seating r.sizes,
        (∀ other : Seating r.sizes, other.FirstFits (contendingFree r pool) ↔ other = seat) ∧
        (∀ i : Fin r.sizes.length, i.val ∉ f.indices ↔ (seat i).isSome) ∧
        ∀ i : Fin r.sizes.length, i.val ∈ f.indices →
          ∀ position (hp : position < (contenders r pool).length),
            ((contenders r pool).get ⟨position, hp⟩).free < seat.taken position + r.sizes.get i) := by
  have hrefuses := refuses_of_solve_eq_error h
  refine ⟨hrefuses.unplaced_ne_nil (sizes_ne_nil_of_infeasible h), hrefuses.lists,
    hrefuses.required_eq, ?_⟩
  rintro ⟨d, hd, hadmits⟩ hfits
  have hd : d ∈ contenders r pool := mem_contenders.mpr ⟨hd, hadmits⟩
  cases hrefuses with
  | ineligible reason available hnone hreason =>
    rw [hnone] at hd
    cases hd
  | tooLarge hsome hlarge => exact absurd ((oversized_eq_nil_iff hsome).mpr hfits) hlarge
  | leftOver hsome hlarge hleft =>
    have hfirst := Seating.firstFits_ofFirstFit r.sizes (contendingFree r pool)
    refine ⟨totalFree_contenders, Seating.ofFirstFit r.sizes (contendingFree r pool),
      fun other => ⟨fun hother => hother.unique hfirst, fun heq => heq ▸ hfirst⟩,
      fun i => ?_, fun i hi position hp => ?_⟩
    · rw [Failure.indices, mem_indices_refusedShards, Option.isSome_iff_ne_none]
    · have hlt := hfirst.free_lt (mem_indices_refusedShards.mp hi)
        (length_contendingFree.symm ▸ hp)
      rwa [getD_contendingFree hp] at hlt

/-- A request that one device has no room for, refused with the third of its shards. -/
theorem solve_of_overfull :
    let gpu : PoolDevice := ⟨"gpu", 12, 12, 0, [], none, .double 0⟩
    let r : Request := ⟨[4, 5, 5, 2], [], none, none⟩
    solve {} r [gpu] = .error (.infeasible ⟨[⟨2, 5, .insufficientMemory 3⟩], 16, 12⟩) ∧
      r.Admits gpu ∧ ∀ i, ¬TooLarge r [gpu] i := by
  intro gpu r
  have horder : tryOrder [gpu] = [gpu] := List.mergeSort_singleton _
  have he : eligible r [gpu] = .ok [gpu] := rfl
  have hadmits : r.Admits gpu := ⟨Or.inl rfl, by simp [r], by simp [r]⟩
  have hfree : ∀ i, ¬gpu.free < r.sizes.get i := by decide
  refine ⟨?_, hadmits, fun i hlarge =>
    hfree i (hlarge gpu (List.mem_singleton_self gpu) hadmits)⟩
  rw [solve, he]
  simp only [horder]
  rfl

/-- All shards but the third are those that first fit has placed. -/
theorem reports_are_accurate_of_overfull :
    let gpu : PoolDevice := ⟨"gpu", 12, 12, 0, [], none, .double 0⟩
    let r : Request := ⟨[4, 5, 5, 2], [], none, none⟩
    let f : Failure := ⟨[⟨2, 5, .insufficientMemory 3⟩], 16, 12⟩
    solve {} r [gpu] = .error (.infeasible f) ∧ (∃ d ∈ [gpu], r.Admits d) ∧
      (∀ i, ¬TooLarge r [gpu] i) ∧ f.unplaced ≠ [] ∧ Lists r.sizes f.unplaced ∧
      ∃ seat : Seating r.sizes, ∀ i : Fin r.sizes.length, i.val ∉ f.indices ↔ (seat i).isSome := by
  intro gpu r f
  obtain ⟨hsolve, hadmits, hfits⟩ := solve_of_overfull
  have hsome : ∃ d ∈ [gpu], r.Admits d := ⟨gpu, List.mem_singleton_self gpu, hadmits⟩
  obtain ⟨hne, hlists, -, hpass⟩ := reports_are_accurate hsolve
  obtain ⟨-, seat, -, hseat, -⟩ := hpass hsome hfits
  exact ⟨hsolve, hsome, hfits, hne, hlists, seat, hseat⟩

/-! ## What a report leaves out -/

/-- Devices for the shards of a set, with room on each for all of them that it receives. -/
structure FitTogether (r : Request) (pool : List PoolDevice) (shards : Finset (Fin r.sizes.length))
    (device : Fin r.sizes.length → PoolDevice) : Prop where
  mem : ∀ i ∈ shards, device i ∈ pool
  admits : ∀ i ∈ shards, r.Admits (device i)
  room : ∀ d ∈ pool, (∑ i ∈ shards, if (device i).id = d.id then r.sizes.get i else 0) ≤ d.free

/-- The shards that a report does not list. -/
def unlisted (r : Request) (f : Failure) : Finset (Fin r.sizes.length) :=
  {i | i.val ∉ f.indices}

theorem mem_unlisted {i : Fin r.sizes.length} : i ∈ unlisted r f ↔ i.val ∉ f.indices := by
  simp [unlisted]

/-- The shards that first fit places fit together on the devices at their positions. -/
theorem exists_fitTogether_of_firstFits (hids : (pool.map (·.id)).Nodup) {seat : Seating r.sizes}
    (hseat : seat.FirstFits (contendingFree r pool)) {shards : Finset (Fin r.sizes.length)}
    (hshards : ∀ i ∈ shards, (seat i).isSome) :
    ∃ device, FitTogether r pool shards device := by
  have hex : ∀ i, ∃ d, ∀ position, seat i = some position →
      ∃ hp : position < (contenders r pool).length, (contenders r pool).get ⟨position, hp⟩ = d := by
    intro i
    cases h : seat i with
    | none => exact ⟨⟨"", 0, 0, 0, [], none, .double 0⟩, by simp⟩
    | some position =>
      have hp : position < (contenders r pool).length :=
        lt_of_lt_of_eq ((hseat i position).mp h).1.1 length_contendingFree
      exact ⟨(contenders r pool).get ⟨position, hp⟩, fun q hq => Option.some.inj hq ▸ ⟨hp, rfl⟩⟩
  choose device hdevice using hex
  have hmem : ∀ i ∈ shards, device i ∈ contenders r pool := by
    intro i hi
    obtain ⟨position, hposition⟩ := Option.isSome_iff_exists.mp (hshards i hi)
    obtain ⟨hp, heq⟩ := hdevice i position hposition
    exact heq ▸ List.getElem_mem hp
  refine ⟨device, fun i hi => (mem_contenders.mp (hmem i hi)).1,
    fun i hi => (mem_contenders.mp (hmem i hi)).2, fun d hd => ?_⟩
  by_cases hc : d ∈ contenders r pool
  · obtain ⟨q, hq, rfl⟩ := List.getElem_of_mem hc
    rw [← getD_contendingFree hq]
    refine le_trans ?_ (hseat.taken_le q)
    refine le_trans (Finset.sum_le_sum fun i hi => ?_) (Finset.sum_le_sum_of_subset (Finset.subset_univ shards))
    obtain ⟨position, hposition⟩ := Option.isSome_iff_exists.mp (hshards i hi)
    obtain ⟨hp, heq⟩ := hdevice i position hposition
    have hiff := position_eq_iff hids hp hq
    rw [← heq, hposition]
    simp only [List.get_eq_getElem, hiff, Option.some_inj]
    exact le_rfl
  · -- A device that is not tried shares its id with none that is.
    refine le_of_eq_of_le (Finset.sum_eq_zero fun i hi => if_neg fun heq => ?_) (Nat.zero_le _)
    exact hc (eq_of_id_eq hids (mem_contenders.mp (hmem i hi)).1 hd heq ▸ hmem i hi)

theorem exists_fitTogether_empty (r : Request) (pool : List PoolDevice) :
    ∃ device, FitTogether r pool ∅ device :=
  ⟨fun _ => ⟨"", 0, 0, 0, [], none, .double 0⟩, by simp, by simp, by simp⟩

theorem mem_indices_ofAll (reason : Reason) (available : Nat) (i : Fin r.sizes.length) :
    i.val ∈ (Failure.ofAll r reason available).indices := by
  rw [Failure.indices, List.mem_map]
  exact ⟨⟨i, r.sizes[i], reason⟩, List.mem_mapIdx.mpr ⟨i, i.isLt, rfl⟩, rfl⟩

/--
Unless some shard is larger than every eligible device, the shards that a report does not list fit
together. When there is such a shard, the report lists the shards that are too large by themselves, and
says nothing about whether the others fit together.
-/
theorem unlisted_fit_unless_too_large (hids : (pool.map (·.id)).Nodup)
    (h : solve policy r pool = .error (.infeasible f)) :
    ((∀ i, ¬TooLarge r pool i) ∨ (¬∃ d ∈ pool, r.Admits d) →
      ∃ device, FitTogether r pool (unlisted r f) device) ∧
    ((∃ i, TooLarge r pool i) → ∀ i : Fin r.sizes.length, i.val ∈ f.indices ↔ TooLarge r pool i) := by
  have hrefuses := refuses_of_solve_eq_error h
  have hnobody : contenders r pool = [] ↔ ¬∃ d ∈ pool, r.Admits d := by
    rw [List.eq_nil_iff_forall_not_mem, not_exists]
    simp only [mem_contenders]
  cases hrefuses with
  | ineligible reason available hnone hreason =>
    have hall := mem_indices_ofAll (r := r) reason available
    have hempty : unlisted r (.ofAll r reason available) = ∅ :=
      Finset.eq_empty_iff_forall_notMem.mpr fun i hi => mem_unlisted.mp hi (hall i)
    refine ⟨fun _ => hempty ▸ exists_fitTogether_empty r pool, fun _ i => iff_of_true (hall i) ?_⟩
    exact fun d hd hadmits => absurd ⟨d, hd, hadmits⟩ (hnobody.mp hnone)
  | tooLarge hsome hlarge =>
    refine ⟨?_, fun _ i => mem_indices_oversized hsome⟩
    rintro (hfits | hnone)
    · exact absurd ((oversized_eq_nil_iff hsome).mpr hfits) hlarge
    · exact absurd (hnobody.mpr hnone) hsome
  | leftOver hsome hlarge hleft =>
    have hfits := (oversized_eq_nil_iff hsome).mp hlarge
    refine ⟨fun _ => ?_, fun ⟨i, hi⟩ => absurd hi (hfits i)⟩
    apply exists_fitTogether_of_firstFits hids (Seating.firstFits_ofFirstFit _ _)
    intro i hi
    rw [mem_unlisted, Failure.indices, mem_indices_refusedShards] at hi
    exact Option.isSome_iff_ne_none.mpr hi

/-- The shards that are not listed share the device, which has room for them. -/
theorem unlisted_fit_unless_too_large_of_overfull :
    let gpu : PoolDevice := ⟨"gpu", 12, 12, 0, [], none, .double 0⟩
    let r : Request := ⟨[4, 5, 5, 2], [], none, none⟩
    let f : Failure := ⟨[⟨2, 5, .insufficientMemory 3⟩], 16, 12⟩
    ([gpu].map (·.id)).Nodup ∧ solve {} r [gpu] = .error (.infeasible f) ∧
      ∃ device, FitTogether r [gpu] (unlisted r f) device := by
  intro gpu r f
  obtain ⟨hsolve, -, hfits⟩ := solve_of_overfull
  have hids : ([gpu].map (·.id)).Nodup := List.nodup_singleton _
  exact ⟨hids, hsolve, (unlisted_fit_unless_too_large hids hsolve).1 (Or.inl hfits)⟩

/-- Of three shards only the one that is too large is listed, but the other two do not fit together. -/
theorem too_large_alone_is_listed :
    let gpu : PoolDevice := ⟨"gpu", 10, 10, 0, [], none, .double 0⟩
    let r : Request := ⟨[20, 8, 8], [], none, none⟩
    ([gpu].map (·.id)).Nodup ∧ ∃ f, solve {} r [gpu] = .error (.infeasible f) ∧
      ¬∃ device, FitTogether r [gpu] (unlisted r f) device := by
  intro gpu r
  have horder : tryOrder [gpu] = [gpu] := List.mergeSort_singleton _
  have he : eligible r [gpu] = .ok [gpu] := rfl
  refine ⟨List.nodup_singleton _, ⟨[⟨0, 20, .insufficientMemory 10⟩], 36, 10⟩, ?_, ?_⟩
  · rw [solve, he]
    simp only [horder]
    rfl
  · rintro ⟨device, hfit⟩
    have hshards : unlisted r ⟨[⟨0, 20, .insufficientMemory 10⟩], 36, 10⟩ = {1, 2} := by decide
    rw [hshards] at hfit
    have hone := List.mem_singleton.mp (hfit.mem 1 (by decide))
    have htwo := List.mem_singleton.mp (hfit.mem 2 (by decide))
    have hroom := hfit.room gpu (List.mem_singleton_self gpu)
    rw [Finset.sum_pair (by decide), hone, htwo, if_pos rfl] at hroom
    exact absurd hroom (by decide)

end GpuCluster.Placement
