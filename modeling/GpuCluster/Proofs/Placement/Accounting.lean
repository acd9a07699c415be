import Mathlib
import GpuCluster.Proofs.Placement.Packing
import GpuCluster.Proofs.Table

/-!
# The bytes of an assignment

An assignment has an entry for every device that holds a shard, even a shard of no bytes, and for no
other device. The entry is the sum of the sizes of the shards on the device.
-/

namespace GpuCluster.Placement.Assignment

variable {sizes : List Nat} {placements : Table Nat DeviceId}

theorem get?_addBytes (bytes : Table DeviceId Nat) (shard : Nat) (device other : DeviceId) :
    (addBytes sizes bytes shard device).get? other =
      if device = other then some ((bytes.get? device).getD 0 + sizes.getD shard 0)
      else bytes.get? other :=
  Table.get?_insert bytes device other _

theorem get?_foldl_addBytes (entries : List (Nat × DeviceId)) (bytes : Table DeviceId Nat)
    (device : DeviceId) :
    (entries.foldl (fun bytes e => addBytes sizes bytes e.1 e.2) bytes).get? device =
      if device ∈ entries.map Prod.snd then
        some ((bytes.get? device).getD 0 + load (sizes.getD · 0) entries device)
      else bytes.get? device := by
  induction entries generalizing bytes with
  | nil => simp
  | cons e entries ih =>
    obtain ⟨shard, target⟩ := e
    rw [List.foldl_cons, ih, get?_addBytes, load_cons]
    by_cases heq : target = device
    · subst heq
      by_cases hmem : target ∈ entries.map Prod.snd
      · simp [hmem, Nat.add_assoc]
      · simp only [hmem, load_eq_zero hmem]
        simp
    · have hmem : device ∈ ((shard, target) :: entries).map Prod.snd ↔
          device ∈ entries.map Prod.snd := by
        rw [List.map_cons, List.mem_cons, or_iff_right (Ne.symm heq)]
      simp only [hmem, if_neg heq, Nat.zero_add]

theorem get?_bytes_of (method : Method) (heterogeneous : Bool) (device : DeviceId) :
    (of placements sizes method heterogeneous).bytes.get? device =
      if device ∈ placements.values then some (load (sizes.getD · 0) placements.entries device)
      else none := by
  rw [of, get?_foldl_addBytes, Table.get?_empty, Option.getD_none, Nat.zero_add]
  rfl

end GpuCluster.Placement.Assignment
