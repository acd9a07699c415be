import GpuCluster.Placement.FirstFit

/-!
# Complete search

At every step the shard is chosen that fits the fewest devices; of several such the largest, and of
several of these the first. It is tried on each device with room, in order, and the search goes on
with the other shards. A shard that fits no device ends the branch.
-/

namespace GpuCluster.Placement

structure Shard where
  index : Nat
  size : Nat
  deriving DecidableEq, Repr

/-- The number of devices with room for `size` bytes. -/
def fitCount (free : List Nat) (size : Nat) : Nat :=
  free.countP (size ≤ ·)

/-- A shard is chosen before another: fewer devices, then more bytes, then lower index. -/
def isTighter (free : List Nat) (s t : Shard) : Bool :=
  ((compare (fitCount free s.size) (fitCount free t.size)).then
    ((compare t.size s.size).then (compare s.index t.index))) = .lt

/-- The shard to place next. -/
def tightest? (free : List Nat) : List Shard → Option Shard
  | [] => none
  | s :: rest => some (rest.foldl (fun best t => if isTighter free t best then t else best) s)

/-- The positions of the devices with room for `size` bytes. -/
def positionsWithRoom (free : List Nat) (size : Nat) : List Nat :=
  (List.range free.length).filter fun position => size ≤ free.getD position 0

/-- Places the pending shards, which are no more than `count`; gives the position of each. -/
def descend : (count : Nat) → (free : List Nat) → (pending : List Shard) → Option (List (Nat × Nat))
  | 0, _, _ => some []
  | count + 1, free, pending =>
    match tightest? free pending with
    | none => some []
    | some shard =>
      (positionsWithRoom free shard.size).findSome? fun position =>
        (descend count (takeFrom free position shard.size) (pending.erase shard)).map
          ((shard.index, position) :: ·)

/-- The shards of a request. -/
def shardsOf (sizes : List Nat) : List Shard :=
  sizes.mapIdx Shard.mk

/-- The position of every shard, or nothing if there is no way to place them all. -/
def search? (sizes free : List Nat) : Option (List (Nat × Nat)) :=
  descend sizes.length free (shardsOf sizes)

end GpuCluster.Placement
