import GpuCluster.Placement.Failure

/-!
# First fit

The shards are taken in their order, and each goes to the first device with enough memory left.
Devices are known by their position in the order in which they are tried.
-/

namespace GpuCluster.Placement

/-- Memory left on each device after `size` bytes went to the device at `position`. -/
def takeFrom (free : List Nat) (position size : Nat) : List Nat :=
  free.modify position (· - size)

/-- What became of a shard. -/
inductive Fate where
  | placed (position : Nat)
  | refused (largestFree : Nat)

/-- The fates of shards of the given sizes on devices with the given memory. -/
def firstFit : (sizes free : List Nat) → List Fate
  | [], _ => []
  | size :: rest, free =>
    match free.findIdx? (size ≤ ·) with
    | some position => .placed position :: firstFit rest (takeFrom free position size)
    | none => .refused (largest free) :: firstFit rest free

/-- The placed shards with their positions, counting shards from `start`. -/
def placedShards : List Fate → (start : Nat) → List (Nat × Nat)
  | [], _ => []
  | .placed position :: rest, start => (start, position) :: placedShards rest (start + 1)
  | .refused _ :: rest, start => placedShards rest (start + 1)

/-- The refused shards, counting shards from `start`. -/
def refusedShards : (fates : List Fate) → (sizes : List Nat) → (start : Nat) → List Unplaced
  | .placed _ :: rest, _ :: sizes, start => refusedShards rest sizes (start + 1)
  | .refused largestFree :: rest, size :: sizes, start =>
    ⟨start, size, .insufficientMemory largestFree⟩ :: refusedShards rest sizes (start + 1)
  | _, _, _ => []

theorem length_firstFit (sizes free : List Nat) : (firstFit sizes free).length = sizes.length := by
  induction sizes generalizing free with
  | nil => rfl
  | cons size rest ih =>
    rw [firstFit]
    split <;> simp [ih]

end GpuCluster.Placement
