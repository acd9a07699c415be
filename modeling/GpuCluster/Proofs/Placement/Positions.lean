import Mathlib
import GpuCluster.Proofs.Placement.Correctness
import GpuCluster.Proofs.Placement.Spread
import GpuCluster.Proofs.Ranking

/-!
# A pool that is left in place

Devices can be left where they are listed, and known by their positions. They are then tried in an order
of positions, and what is summed, counted or compared is so over the pool as it is listed. Turn by turn
this goes as on the pool that is put in order first. The position that has its turn takes the part of
the turn, and whatever is taken over the whole pool is the same in every order.
-/

namespace GpuCluster.Placement

/-- The positions of the devices, in the order in which they are tried. -/
def tryPositions (devices : List PoolDevice) : List Nat :=
  (devices.zipIdx.mergeSort fun d e => precedes d.1 e.1).map (·.2)

def firstFitInPlace (order : List Nat) : (sizes free : List Nat) → List Fate
  | [], _ => []
  | size :: rest, free =>
    match order.find? (size ≤ free.getD · 0) with
    | some position => .placed position :: firstFitInPlace order rest (takeFrom free position size)
    | none => .refused (largest free) :: firstFitInPlace order rest free

def firstFitAllInPlace? (order sizes free : List Nat) : Option (List (Nat × Nat)) :=
  let fates := firstFitInPlace order sizes free
  if (refusedShards fates sizes 0).isEmpty then some (placedShards fates 0) else none

def descendInPlace (order : List Nat) :
    (count : Nat) → (free : List Nat) → (pending : List Shard) → Option (List (Nat × Nat))
  | 0, _, _ => some []
  | count + 1, free, pending =>
    match tightest? free pending with
    | none => some []
    | some shard =>
      (order.filter (shard.size ≤ free.getD · 0)).findSome? fun position =>
        (descendInPlace order count (takeFrom free position shard.size) (pending.erase shard)).map
          ((shard.index, position) :: ·)

def searchInPlace? (order sizes free : List Nat) : Option (List (Nat × Nat)) :=
  descendInPlace order sizes.length free (shardsOf sizes)

/-- What is arranged, given what first fit and the search find. -/
def arrangeWith (fitted searched : Option (List (Nat × Nat))) (timeoutMs : Nat)
    (heterogeneous : Bool) : Option (List (Nat × Nat)) × Method :=
  let found := if timeoutMs = 0 then (fitted, .greedyFallback) else (searched, .search)
  if heterogeneous then found
  else match fitted with
    | some placed => (some placed, .greedy)
    | none => found

/-- Places the shards of a request on a pool that is left as it is listed. -/
def solveInPlace (policy : PlacementPolicy) (r : Request) (pool : List PoolDevice) :
    Except Refusal Assignment :=
  if r.sizes.isEmpty then .error .noShards
  else match eligible r pool with
  | .error failure => .error (.infeasible failure)
  | .ok devices =>
    let order := tryPositions devices
    let free := devices.map (·.free)
    let available := totalFree devices
    let report := fun unplaced => Refusal.infeasible ⟨unplaced, r.totalBytes, available⟩
    let leftOver := refusedShards (firstFitInPlace order r.sizes free) r.sizes 0
    let tooLarge := oversized r.sizes (largest free)
    if !tooLarge.isEmpty then .error (report tooLarge)
    else if available < r.totalBytes then .error (report leftOver)
    else
      let heterogeneous :=
        isHeterogeneous devices policy.memoryTolerance policy.utilizationTolerance
      match arrangeWith (firstFitAllInPlace? order r.sizes free) (searchInPlace? order r.sizes free)
        policy.timeoutMs heterogeneous with
      | (some placed, method) =>
        .ok (.of (named devices placed) r.sizes method heterogeneous)
      | (none, _) => .error (report leftOver)

/-! ## Turns -/

/-- The position that has a turn. -/
def turn (order : List Nat) (q : Nat) : Nat := order.getD q order.length

/-- The memory left on each device, in the order of the turns. -/
def visited (order free : List Nat) : List Nat := order.map (free.getD · 0)

def inTurn (order : List Nat) (placed : List (Nat × Nat)) : List (Nat × Nat) :=
  placed.map fun e => (e.1, turn order e.2)

section Turns

variable {order free : List Nat}

theorem visited_perm (h : order.Perm (List.range free.length)) : (visited order free).Perm free := by
  have hmap := h.map (free.getD · 0)
  rwa [map_getD_range] at hmap

theorem map_turn_range (order : List Nat) : (List.range order.length).map (turn order) = order := by
  apply List.ext_getElem (by simp)
  intro q _ hq
  simp [turn, hq]

theorem find?_eq_map_findIdx? {α : Type} (p : α → Bool) (l : List α) (a : α) :
    l.find? p = (l.findIdx? p).map (l.getD · a) := by
  induction l with
  | nil => rfl
  | cons b l ih =>
    rw [List.find?_cons, List.findIdx?_cons]
    cases p b with
    | true => rfl
    | false =>
      simp only [Bool.false_eq_true, if_false, ih, Option.map_map]
      rfl

theorem find?_order (order free : List Nat) (n : Nat) :
    order.find? (n ≤ free.getD · 0) = ((visited order free).findIdx? (n ≤ ·)).map (turn order) := by
  rw [find?_eq_map_findIdx? _ _ order.length, visited, List.findIdx?_map]
  rfl

theorem getD_visited (h : order.Perm (List.range free.length)) (q : Nat) :
    (visited order free).getD q 0 = free.getD (turn order q) 0 := by
  by_cases hq : q < order.length
  · rw [visited, turn, List.getD_eq_getElem _ _ (by simpa using hq), List.getElem_map,
      List.getD_eq_getElem order _ hq]
  · -- Beyond the last turn there is no device on either side.
    have hlength : order.length = free.length := by simpa using h.length_eq
    rw [turn, List.getD_eq_default order _ (Nat.not_lt.mp hq),
      List.getD_eq_default free _ hlength.ge,
      List.getD_eq_default _ _ (by simpa [visited] using Nat.not_lt.mp hq)]

theorem turn_eq_iff (h : order.Perm (List.range free.length)) {q i : Nat} (hi : i < order.length) :
    turn order q = turn order i ↔ q = i := by
  have hnodup : order.Nodup := h.nodup_iff.mpr List.nodup_range
  have hlength : order.length = free.length := by simpa using h.length_eq
  rw [turn, turn, List.getD_eq_getElem order _ hi]
  by_cases hq : q < order.length
  · rw [List.getD_eq_getElem order _ hq]
    exact hnodup.getElem_inj_iff
  · have hlt : order[i] < free.length := List.mem_range.mp (h.mem_iff.mp (List.getElem_mem hi))
    rw [List.getD_eq_default order _ (Nat.not_lt.mp hq)]
    omega

theorem visited_takeFrom (h : order.Perm (List.range free.length)) (q n : Nat) :
    visited order (takeFrom free (turn order q) n) = takeFrom (visited order free) q n := by
  have hperm : order.Perm (List.range (takeFrom free (turn order q) n).length) := by
    rwa [length_takeFrom]
  apply List.ext_getElem (by simp [visited, length_takeFrom])
  intro i hi hi'
  have hlt : i < order.length := by simpa [visited] using hi
  have hget := getD_takeFrom (visited order free) q n i
  rw [getD_visited h] at hget
  rw [← List.getD_eq_getElem _ 0, ← List.getD_eq_getElem _ 0, hget, getD_visited hperm,
    getD_takeFrom]
  simp only [turn_eq_iff h hlt]

theorem filter_order (h : order.Perm (List.range free.length)) (n : Nat) :
    order.filter (n ≤ free.getD · 0) =
      (positionsWithRoom (visited order free) n).map (turn order) := by
  have hlength : (visited order free).length = order.length := List.length_map _
  conv_lhs => rw [← map_turn_range order]
  rw [List.filter_map, positionsWithRoom, hlength]
  congr 1
  refine List.filter_congr fun q _ => ?_
  rw [getD_visited h]
  rfl

/-! ## First fit, turn by turn -/

def Fate.inTurn (order : List Nat) : Fate → Fate
  | .placed q => .placed (turn order q)
  | .refused largestFree => .refused largestFree

theorem placedShards_inTurn (order : List Nat) (fates : List Fate) (start : Nat) :
    placedShards (fates.map (.inTurn order)) start = Placement.inTurn order (placedShards fates start) := by
  induction fates generalizing start with
  | nil => rfl
  | cons fate fates ih =>
    cases fate with
    | placed q =>
      rw [List.map_cons, Fate.inTurn, placedShards, placedShards, ih]
      rfl
    | refused n => exact ih (start + 1)

theorem refusedShards_inTurn (order : List Nat) (fates : List Fate) (sizes : List Nat) (start : Nat) :
    refusedShards (fates.map (.inTurn order)) sizes start = refusedShards fates sizes start := by
  induction fates generalizing sizes start with
  | nil => rfl
  | cons fate fates ih =>
    cases sizes with
    | nil => cases fate <;> rfl
    | cons size sizes =>
      cases fate with
      | placed q => exact ih sizes (start + 1)
      | refused n => exact congrArg _ (ih sizes (start + 1))

theorem firstFitInPlace_eq (h : order.Perm (List.range free.length)) (sizes : List Nat) :
    firstFitInPlace order sizes free =
      (firstFit sizes (visited order free)).map (.inTurn order) := by
  induction sizes generalizing free with
  | nil => rfl
  | cons size rest ih =>
    rw [firstFitInPlace, firstFit, find?_order]
    cases (visited order free).findIdx? (size ≤ ·) with
    | some q =>
      have hperm : order.Perm (List.range (takeFrom free (turn order q) size).length) := by
        rwa [length_takeFrom]
      simp only [Option.map_some, ih hperm, visited_takeFrom h, List.map_cons, Fate.inTurn]
    | none =>
      simp only [Option.map_none, ih h, largest_eq_of_perm (visited_perm h), List.map_cons,
        Fate.inTurn]

theorem firstFitAllInPlace?_eq (h : order.Perm (List.range free.length)) (sizes : List Nat) :
    firstFitAllInPlace? order sizes free =
      (firstFitAll? sizes (visited order free)).map (inTurn order) := by
  rw [firstFitAllInPlace?, firstFitAll?, firstFitInPlace_eq h, refusedShards_inTurn,
    placedShards_inTurn]
  split <;> rfl

/-! ## The search, turn by turn -/

theorem tightest?_eq_of_perm {free' : List Nat} (h : free.Perm free') (pending : List Shard) :
    tightest? free pending = tightest? free' pending := by
  have htighter : isTighter free = isTighter free' := by
    funext s t
    rw [isTighter, isTighter, fitCount, fitCount, fitCount, fitCount, h.countP_eq, h.countP_eq]
  cases pending with
  | nil => rfl
  | cons s rest => rw [tightest?, tightest?, htighter]

theorem descendInPlace_eq (h : order.Perm (List.range free.length)) (count : Nat)
    (pending : List Shard) :
    descendInPlace order count free pending =
      (descend count (visited order free) pending).map (inTurn order) := by
  induction count generalizing free pending with
  | zero => rfl
  | succ count ih =>
    rw [descendInPlace, descend, tightest?_eq_of_perm (visited_perm h)]
    cases tightest? free pending with
    | none => rfl
    | some s =>
      dsimp only
      rw [filter_order h, List.findSome?_map, List.map_findSome?]
      congr 1
      funext q
      have hperm : order.Perm (List.range (takeFrom free (turn order q) s.size).length) := by
        rwa [length_takeFrom]
      simp only [Function.comp_apply, ih hperm, visited_takeFrom h, Option.map_map]
      rfl

theorem searchInPlace?_eq (h : order.Perm (List.range free.length)) (sizes : List Nat) :
    searchInPlace? order sizes free = (search? sizes (visited order free)).map (inTurn order) :=
  descendInPlace_eq h sizes.length (shardsOf sizes)

end Turns

/-! ## Solving in place -/

theorem arrange_eq_arrangeWith (timeoutMs : Nat) (heterogeneous : Bool) (sizes free : List Nat) :
    arrange timeoutMs heterogeneous sizes free =
      arrangeWith (firstFitAll? sizes free) (search? sizes free) timeoutMs heterogeneous := rfl

theorem arrangeWith_map (f : List (Nat × Nat) → List (Nat × Nat))
    (fitted searched : Option (List (Nat × Nat))) (timeoutMs : Nat) (heterogeneous : Bool) :
    arrangeWith (fitted.map f) (searched.map f) timeoutMs heterogeneous =
      ((arrangeWith fitted searched timeoutMs heterogeneous).1.map f,
        (arrangeWith fitted searched timeoutMs heterogeneous).2) := by
  simp only [arrangeWith]
  split
  · split <;> rfl
  · cases fitted with
    | some placed => rfl
    | none => simp only [Option.map_none]; split <;> rfl

theorem tryPositions_perm (devices : List PoolDevice) :
    (tryPositions devices).Perm (List.range devices.length) := by
  refine ((List.mergeSort_perm ..).map _).trans (.of_eq ?_)
  rw [List.zipIdx_map_snd, List.range_eq_range']

theorem tryOrder_eq_map (devices : List PoolDevice) :
    tryOrder devices = (devices.zipIdx.mergeSort fun d e => precedes d.1 e.1).map (·.1) := by
  rw [List.map_mergeSort (s := precedes) fun _ _ _ _ => rfl, List.zipIdx_map_fst, tryOrder]

theorem getElem?_turn_tryPositions (devices : List PoolDevice) (q : Nat) :
    devices[turn (tryPositions devices) q]? = (tryOrder devices)[q]? := by
  have hlength : (tryPositions devices).length = devices.length := by
    simpa using (tryPositions_perm devices).length_eq
  by_cases hq : q < (tryPositions devices).length
  · have hq' : q < (devices.zipIdx.mergeSort fun d e => precedes d.1 e.1).length := by
      simpa [tryPositions] using hq
    have hget := List.mem_zipIdx_iff_getElem?.mp (List.mem_mergeSort.mp (List.getElem_mem hq'))
    rw [turn, List.getD_eq_getElem _ _ hq, tryOrder_eq_map, List.getElem?_map,
      List.getElem?_eq_getElem hq', Option.map_some]
    simpa [tryPositions] using hget
  · have hend : (tryOrder devices).length ≤ q := by
      rw [(tryOrder_perm devices).length_eq, ← hlength]
      exact Nat.not_lt.mp hq
    rw [turn, List.getD_eq_default _ _ (Nat.not_lt.mp hq), hlength, List.getElem?_eq_none hend]
    exact List.getElem?_eq_none (Nat.le_refl _)

theorem visited_tryPositions (devices : List PoolDevice) :
    visited (tryPositions devices) (devices.map (·.free)) = (tryOrder devices).map (·.free) := by
  rw [visited, tryPositions, tryOrder_eq_map, List.map_map, List.map_map]
  refine List.map_congr_left fun e he => ?_
  have hget := List.mem_zipIdx_iff_getElem?.mp (List.mem_mergeSort.mp he)
  simp [List.getD_eq_getElem?_getD, hget]

theorem named_inTurn (devices : List PoolDevice) (placed : List (Nat × Nat)) :
    named devices (inTurn (tryPositions devices) placed) = named (tryOrder devices) placed := by
  simp only [named, inTurn, List.map_map, Function.comp_def, getElem?_turn_tryPositions]

theorem totalFree_eq_of_perm {devices devices' : List PoolDevice} (h : devices.Perm devices') :
    totalFree devices = totalFree devices' := by
  rw [totalFree, totalFree, reportedSum, reportedSum, total_eq_sum, total_eq_sum,
    (h.map _).sum_eq]

/-- A request is solved alike on a pool that is left in place and on one that is put in order first. -/
theorem solveInPlace_eq_solve (policy : PlacementPolicy) (r : Request) (pool : List PoolDevice) :
    solveInPlace policy r pool = solve policy r pool := by
  rw [solveInPlace, solve]
  cases eligible r pool with
  | error failure => rfl
  | ok devices =>
    have horder := tryOrder_perm devices
    have hturns : (tryPositions devices).Perm (List.range (devices.map (·.free)).length) := by
      rw [List.length_map]
      exact tryPositions_perm devices
    simp only [arrange_eq_arrangeWith, firstFitInPlace_eq hturns, firstFitAllInPlace?_eq hturns,
      searchInPlace?_eq hturns, refusedShards_inTurn, visited_tryPositions, arrangeWith_map,
      totalFree_eq_of_perm horder, isHeterogeneous_eq_of_perm horder,
      largest_eq_of_perm (horder.map (·.free))]
    -- Both have arranged the same, and name the same devices.
    generalize arrangeWith _ _ _ _ = arranged
    rcases arranged with ⟨_ | placed, method⟩
    · rfl
    · simp only [Option.map_some, named_inTurn]

/-! ## Pools in another order -/

section Order

variable {r : Request} {candidates : List DeviceId} {pool pool' : List PoolDevice}

theorem isCandidate_congr (hc : ∀ id, id ∈ candidates ↔ id ∈ r.candidates) :
    ({ r with candidates } : Request).isCandidate = r.isCandidate := by
  funext d
  have hempty : candidates = [] ↔ r.candidates = [] := by
    rw [List.eq_nil_iff_forall_not_mem, List.eq_nil_iff_forall_not_mem]
    exact forall_congr' fun id => not_congr (hc id)
  rw [Bool.eq_iff_iff]
  simp only [Request.isCandidate, Bool.or_eq_true, List.isEmpty_iff, List.contains_iff_mem, hempty, hc]

/-- The same devices are eligible, or the same restriction is met by none. -/
theorem eligible_perm (h : pool.Perm pool') (hc : ∀ id, id ∈ candidates ↔ id ∈ r.candidates) :
    (∃ failure, eligible r pool = .error failure ∧
      eligible { r with candidates } pool' = .error failure) ∨
    ∃ devices devices', eligible r pool = .ok devices ∧
      eligible { r with candidates } pool' = .ok devices' ∧ devices.Perm devices' := by
  have hcandidates := h.filter r.isCandidate
  have hgroup := hcandidates.filter r.inGroup
  have hdevices := hgroup.filter r.hasPrecision
  have hin : ({ r with candidates } : Request).inGroup = r.inGroup := rfl
  have hprecision : ({ r with candidates } : Request).hasPrecision = r.hasPrecision := rfl
  simp only [eligible, isCandidate_congr hc, hin, hprecision, ← hcandidates.isEmpty_eq,
    ← hgroup.isEmpty_eq, ← hdevices.isEmpty_eq, ← totalFree_eq_of_perm hcandidates,
    ← totalFree_eq_of_perm hgroup]
  split
  · exact Or.inl ⟨_, rfl, rfl⟩
  · split
    · exact Or.inl ⟨_, rfl, rfl⟩
    · split
      · exact Or.inl ⟨_, rfl, rfl⟩
      · exact Or.inr ⟨_, _, rfl, rfl, hdevices⟩

theorem solve_eq_of_perm (policy : PlacementPolicy) (hids : (pool.map (·.id)).Nodup)
    (h : pool.Perm pool') (hc : ∀ id, id ∈ candidates ↔ id ∈ r.candidates) :
    solve policy { r with candidates } pool' = solve policy r pool := by
  rw [solve, solve]
  rcases eligible_perm h hc with ⟨failure, herror, herror'⟩ | ⟨devices, devices', hok, hok', hperm⟩
  · rw [herror, herror']
  · have hsub : (devices.map (·.id)).Nodup := by
      rw [eq_of_eligible_eq_ok hok]
      exact hids.sublist (List.filter_sublist.map _)
    rw [hok, hok']
    dsimp only
    rw [tryOrder_eq_of_perm hsub hperm]
    rfl

end Order

end GpuCluster.Placement
