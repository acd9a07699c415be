import GpuCluster.Placement.Request

/-!
# Reports of infeasible requests

A report names every shard that found no device, and why.
-/

namespace GpuCluster.Placement

inductive Reason where
  /-- No device had enough memory left. -/
  | insufficientMemory (largestFree : Nat)
  | precisionIncompatible (required : Precision)
  | outsideGroup (group : String)
  | noCandidates
  deriving DecidableEq

structure Unplaced where
  index : Nat
  bytes : Nat
  reason : Reason
  deriving DecidableEq

structure Failure where
  unplaced : List Unplaced
  /-- Bytes that the request asks for. -/
  required : Nat
  /-- Bytes that the devices in question have free. -/
  available : Nat
  deriving DecidableEq

namespace Reason

def text : Reason → String
  | insufficientMemory n => s!"insufficient memory (largest free block {n} bytes)"
  | precisionIncompatible p => "no candidate supports " ++ p.name
  | outsideGroup g => "no candidate in topology group " ++ g
  | noCandidates => "no candidate devices"

end Reason

namespace Failure

/-- The report that refuses every shard for one reason. -/
def ofAll (r : Request) (reason : Reason) (available : Nat) : Failure where
  unplaced := r.sizes.mapIdx fun index bytes => ⟨index, bytes, reason⟩
  required := r.totalBytes
  available := available

def indices (f : Failure) : List Nat := f.unplaced.map (·.index)

def text (f : Failure) : String :=
  let heading := toString f.unplaced.length ++ " shard(s) unplaced (required " ++
    toString f.required ++ " bytes, available " ++ toString f.available ++ " bytes)"
  let line := fun (u : Unplaced) =>
    "; shard " ++ toString u.index ++ " (" ++ toString u.bytes ++ " bytes): " ++ u.reason.text
  f.unplaced.foldl (fun text u => text ++ line u) heading

end Failure

end GpuCluster.Placement
