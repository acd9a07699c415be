/-!
# Rows of items

Items of a pattern that stand side by side form a row. A row is a level of nesting of its own when
it holds more than one item.
-/

namespace GpuCluster.Pattern

/-- The number of items in a row, and the nesting depth of the deepest. -/
structure Row where
  size : Nat
  deepest : Nat
  deriving DecidableEq, Repr

namespace Row

def empty : Row := ⟨0, 0⟩

/-- A row with one more item of the given depth. -/
def push (r : Row) (depth : Nat) : Row := ⟨r.size + 1, max r.deepest depth⟩

/-- The row with one of its items moved down to the given depth. -/
def deepen (r : Row) (depth : Nat) : Row := { r with deepest := max r.deepest depth }

/-- The nesting depth of the row as a whole. -/
def depth (r : Row) : Nat := if 2 ≤ r.size then r.deepest + 1 else r.deepest

end Row

end GpuCluster.Pattern
