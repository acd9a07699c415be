import GpuCluster.Placement.Assignment
import GpuCluster.Placement.Search
import GpuCluster.Placement.Spread

/-!
# Solving a request

Devices are tried by descending score, and those with equal scores by id. A pool of like devices is
filled by first fit, and searched only if that leaves a shard over; a heterogeneous pool is searched
at once. A search that has no time gives way to first fit. A request that cannot be met is reported
with the shards that first fit leaves over.
-/

namespace GpuCluster.Placement

/-- Why there is no assignment. -/
inductive Refusal where
  | noShards
  | infeasible (failure : Failure)

/-- Best score first, then by id. -/
def precedes (d e : PoolDevice) : Bool :=
  ((compare e.score.rank d.score.rank).then (compare d.id e.id)).isLE

def tryOrder (pool : List PoolDevice) : List PoolDevice :=
  pool.mergeSort precedes

/-- The devices that meet the restrictions, or the first restriction that none meets. -/
def eligible (r : Request) (pool : List PoolDevice) : Except Failure (List PoolDevice) :=
  let candidates := pool.filter r.isCandidate
  let inGroup := candidates.filter r.inGroup
  let devices := inGroup.filter r.hasPrecision
  if candidates.isEmpty then .error (.ofAll r .noCandidates 0)
  else match r.group, inGroup.isEmpty with
  | some group, true => .error (.ofAll r (.outsideGroup group) (totalFree candidates))
  | _, _ =>
    match r.precision, devices.isEmpty with
    | some p, true => .error (.ofAll r (.precisionIncompatible p) (totalFree inGroup))
    | _, _ => .ok devices

/-- The shards that are larger than any device's free memory. -/
def oversized (sizes : List Nat) (largestFree : Nat) : List Unplaced :=
  (shardsOf sizes).filterMap fun s =>
    if largestFree < s.size then some ⟨s.index, s.size, .insufficientMemory largestFree⟩ else none

/-- First fit, if it leaves nothing over. -/
def firstFitAll? (sizes free : List Nat) : Option (List (Nat × Nat)) :=
  let fates := firstFit sizes free
  if (refusedShards fates sizes 0).isEmpty then some (placedShards fates 0) else none

/-- The search, or first fit when there is no time for it. -/
def searchOrFirstFit (timeoutMs : Nat) (sizes free : List Nat) :
    Option (List (Nat × Nat)) × Method :=
  if timeoutMs = 0 then (firstFitAll? sizes free, .greedyFallback)
  else (search? sizes free, .search)

/-- Positions for all shards and how they were found. -/
def arrange (timeoutMs : Nat) (heterogeneous : Bool) (sizes free : List Nat) :
    Option (List (Nat × Nat)) × Method :=
  if heterogeneous then searchOrFirstFit timeoutMs sizes free
  else match firstFitAll? sizes free with
    | some placed => (some placed, .greedy)
    | none => searchOrFirstFit timeoutMs sizes free

/-- The devices that positions stand for. -/
def named (devices : List PoolDevice) (placed : List (Nat × Nat)) : Table Nat DeviceId :=
  .ofList (placed.map fun (shard, position) => (shard, ((devices[position]?).map (·.id)).getD ""))

/-- Places every shard of a request on the pool, or says which cannot be placed. -/
def solve (policy : PlacementPolicy) (r : Request) (pool : List PoolDevice) :
    Except Refusal Assignment :=
  if r.sizes.isEmpty then .error .noShards
  else match eligible r pool with
  | .error failure => .error (.infeasible failure)
  | .ok devices =>
    let devices := tryOrder devices
    let free := devices.map (·.free)
    let available := totalFree devices
    let report := fun unplaced => Refusal.infeasible ⟨unplaced, r.totalBytes, available⟩
    let leftOver := refusedShards (firstFit r.sizes free) r.sizes 0
    let tooLarge := oversized r.sizes (largest free)
    if !tooLarge.isEmpty then .error (report tooLarge)
    else if available < r.totalBytes then .error (report leftOver)
    else
      let heterogeneous :=
        isHeterogeneous devices policy.memoryTolerance policy.utilizationTolerance
      match arrange policy.timeoutMs heterogeneous r.sizes free with
      | (some placed, method) =>
        .ok (.of (named devices placed) r.sizes method heterogeneous)
      | (none, _) => .error (report leftOver)

end GpuCluster.Placement
