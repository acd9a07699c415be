import GpuCluster.Placement.Request
import GpuCluster.Table

/-!
# Assignments

An assignment maps shards to devices and keeps the bytes that this puts on each device.
-/

namespace GpuCluster.Placement

/-- How an assignment was found. -/
inductive Method where
  /-- By the complete search. -/
  | search
  /-- By one pass over a pool of like devices. -/
  | greedy
  /-- By one pass, after the search ran out of time. -/
  | greedyFallback
  deriving DecidableEq, Repr

namespace Method

def name : Method → String
  | search => "search"
  | greedy => "greedy"
  | greedyFallback => "greedy-fallback"

def names : List (String × Method) :=
  [("search", search), ("greedy", greedy), ("greedy-fallback", greedyFallback)]

end Method

structure Assignment where
  /-- The device of each shard. -/
  placements : Table Nat DeviceId
  /-- The bytes put on each device that holds a shard. -/
  bytes : Table DeviceId Nat
  method : Method
  heterogeneous : Bool

namespace Assignment

/-- Adds the size of one shard to its device; a shard beyond the list of sizes adds nothing. -/
def addBytes (sizes : List Nat) (bytes : Table DeviceId Nat) (shard : Nat) (device : DeviceId) :
    Table DeviceId Nat :=
  bytes.insert device ((bytes.get? device).getD 0 + sizes.getD shard 0)

/-- The assignment with the given placements. -/
def of (placements : Table Nat DeviceId) (sizes : List Nat) (method : Method)
    (heterogeneous : Bool) : Assignment where
  placements
  bytes := placements.entries.foldl (fun bytes e => addBytes sizes bytes e.1 e.2) .empty
  method
  heterogeneous

def deviceFor? (a : Assignment) (shard : Nat) : Option DeviceId := a.placements.get? shard

/-- Some shard is placed on the device. -/
def references (a : Assignment) (device : DeviceId) : Bool := a.bytes.contains device

def size (a : Assignment) : Nat := a.placements.size

end Assignment

/-- Why an assignment does not fit a pool. -/
inductive Misfit where
  | unknownDevice (id : DeviceId)
  | overcommitted (id : DeviceId) (bytes free : Nat)

namespace Assignment

/-- The misfit of one device. -/
def misfitOn? (pool : List PoolDevice) (id : DeviceId) (bytes : Nat) : Option Misfit :=
  match pool.find? (·.id = id) with
  | none => some (.unknownDevice id)
  | some d => if d.free < bytes then some (.overcommitted id bytes d.free) else none

/-- The first device, by id, that is not in the pool or has too little memory free. -/
def misfit? (a : Assignment) (pool : List PoolDevice) : Option Misfit :=
  a.bytes.entries.findSome? fun e => misfitOn? pool e.1 e.2

end Assignment

end GpuCluster.Placement
