import GpuCluster.Json.Buffer
import GpuCluster.Placement.Assignment
import GpuCluster.Placement.Failure
import GpuCluster.Uuid
import GpuCluster.Wire.Device
import GpuCluster.Wire.Sample

/-!
# Placement in JSON

The kind of a reason may stand anywhere among its members, so that the others are loaded before they
are read.
-/

namespace GpuCluster.Placement

open Json

namespace Request

def toJson (r : Request) : Json :=
  .object
    [("shard_sizes", .array (r.sizes.map ofNat)),
     ("candidates", .array (r.candidates.map ofText)),
     ("required_precision", ofOption Precision.toJson r.precision),
     ("topology_group", ofOption ofText r.group)]

def ofJson? (j : Json) : Option Request := do
  let r ← Record.read? ["shard_sizes", "candidates", "required_precision", "topology_group"] j
  let sizes ← r.required? "shard_sizes" (list? (natOfWidth? 64))
  let candidates ← r.withDefault? "candidates" (list? text?) []
  let precision ← r.withDefault? "required_precision" (nullable? Precision.ofJson?) none
  let group ← r.withDefault? "topology_group" (nullable? text?) none
  some { sizes, candidates, precision, group }

end Request

namespace Method

def toJson (m : Method) : Json := ofText m.name

def ofJson? : Json → Option Method := oneOf? names

end Method

/-- An assignment with its identifier and the time at which it was made. -/
structure AssignmentRecord where
  id : Uuid
  assignment : Assignment
  createdAt : Timestamp

namespace AssignmentRecord

def toJson (record : AssignmentRecord) : Json :=
  let a := record.assignment
  .object
    [("id", ofText record.id.text),
     ("placements",
       ofEntries (a.placements.entries.map fun (shard, id) => (Nat.repr shard, ofText id))),
     ("bytes_per_device", ofEntries (a.bytes.entries.map fun (id, bytes) => (id, ofNat bytes))),
     ("method", a.method.toJson),
     ("heterogeneous", .bool a.heterogeneous),
     ("created_at", record.createdAt.toJson)]

/-- A table with one entry for each member of an object; of equal keys the last one counts. -/
def table? {κ ν : Type} [Ord κ] [Std.TransOrd κ] [Std.LawfulEqOrd κ] (key? : String → Option κ)
    (value? : Json → Option ν) : Json → Option (Table κ ν)
  | .object members => do
    let entries ← members.mapM fun (key, value) => do
      let key ← key? key
      let value ← value? value
      some (key, value)
    some (.ofList entries)
  | _ => none

/-- A shard number spelled in a key. -/
def shard? (spelling : String) : Option Nat := natOfWidth? 64 (.number spelling)

def ofJson? (j : Json) : Option AssignmentRecord := do
  let r ← Record.read? ["id", "placements", "bytes_per_device", "method", "heterogeneous",
    "created_at"] j
  let id ← r.required? "id" fun j => j.text?.bind Uuid.ofText?
  let placements ← r.required? "placements" (table? shard? text?)
  let bytes ← r.required? "bytes_per_device"
    (table? (fun key => text? (.string key)) (natOfWidth? 64))
  let method ← r.required? "method" Method.ofJson?
  let heterogeneous ← r.required? "heterogeneous" bool?
  let createdAt ← r.required? "created_at" Timestamp.ofJson?
  some ⟨id, { placements, bytes, method, heterogeneous }, createdAt⟩

end AssignmentRecord

namespace Reason

def toJson : Reason → Json
  | insufficientMemory n =>
    .object [("kind", ofText "insufficient_memory"), ("largest_free_bytes", ofNat n)]
  | precisionIncompatible p =>
    .object [("kind", ofText "precision_incompatible"), ("required", p.toJson)]
  | outsideGroup g => .object [("kind", ofText "outside_topology_group"), ("group", ofText g)]
  | noCandidates => .object [("kind", ofText "no_candidates")]

/-- The only field of a reason. -/
def field? {α : Type} (name : String) (read? : Json → Option α) (content : Json) : Option α :=
  (Record.read? [name] content).bind fun r => r.required? name read?

/-- The reason of a kind, from its other members or the items after the kind. -/
def ofKind? (kind : String) (content : Json) : Option Reason :=
  if kind = "insufficient_memory" then
    (field? "largest_free_bytes" (natOfWidth? 64) content).map insufficientMemory
  else if kind = "precision_incompatible" then
    (field? "required" Precision.ofJson? content).map precisionIncompatible
  else if kind = "outside_topology_group" then
    (field? "group" text? content).map outsideGroup
  else if kind = "no_candidates" then
    match content with
    | .array (_ :: _) => none
    | _ => some noCandidates
  else none

/-- The kind among the members of an object, and the other members. -/
def split? (outer : Nat) : List (String × Json) → Option (Option String × List (String × Json))
  | [] => some (none, [])
  | (key, value) :: members => do
    let name ← text? (.string key)
    if name = "kind" then
      let kind ← value.text?
      let (other, rest) ← split? outer members
      if other.isSome then none else some (some kind, rest)
    else
      let value ← value.buffered? outer
      let (kind, rest) ← split? outer members
      some (kind, (key, value) :: rest)

/-- Reads a reason that lies inside `outer` arrays and objects. -/
def ofJson? (outer : Nat) : Json → Option Reason
  | .object members => do
    let (kind, members) ← split? (outer + 1) members
    let kind ← kind
    ofKind? kind (.object members)
  | .array (kind :: items) => do
    let kind ← kind.text?
    let items ← items.mapM (buffered? (outer + 1))
    ofKind? kind (.array items)
  | _ => none

end Reason

namespace Unplaced

def toJson (u : Unplaced) : Json :=
  .object [("index", ofNat u.index), ("bytes", ofNat u.bytes), ("reason", u.reason.toJson)]

def ofJson? (outer : Nat) (j : Json) : Option Unplaced := do
  let r ← Record.read? ["index", "bytes", "reason"] j
  let index ← r.required? "index" (natOfWidth? 64)
  let bytes ← r.required? "bytes" (natOfWidth? 64)
  let reason ← r.required? "reason" (Reason.ofJson? (outer + 1))
  some { index, bytes, reason }

end Unplaced

namespace Failure

def toJson (f : Failure) : Json :=
  .object
    [("unplaced", .array (f.unplaced.map Unplaced.toJson)),
     ("required_bytes", ofNat f.required),
     ("available_bytes", ofNat f.available)]

def ofJson? (j : Json) : Option Failure := do
  let r ← Record.read? ["unplaced", "required_bytes", "available_bytes"] j
  let unplaced ← r.required? "unplaced" (list? (Unplaced.ofJson? 2))
  let required ← r.required? "required_bytes" (natOfWidth? 64)
  let available ← r.required? "available_bytes" (natOfWidth? 64)
  some { unplaced, required, available }

end Failure

end GpuCluster.Placement
