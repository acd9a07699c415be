/-!
# Ranges of code points

A set of characters is given by closed ranges of code points, in ascending order.
-/

namespace GpuCluster.Text

/-- The character lies in one of the ranges. -/
def isWithin (ranges : List (Nat × Nat)) (c : Char) : Bool :=
  ranges.any fun (first, last) => first ≤ c.toNat && c.toNat ≤ last

end GpuCluster.Text
