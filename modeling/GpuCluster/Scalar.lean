/-!
# Scalars

The formulas of the library (scores, shares, spreads, forecasts) are written over any scalar type.
They run on doubles, and can be studied over a type without rounding.
-/

namespace GpuCluster

/-- The arithmetic that the formulas need. -/
class Scalar (α : Type) extends Add α, Sub α, Mul α, Div α, Neg α where
  ofNat : Nat → α
  less : α → α → Bool
  atMost : α → α → Bool
  isFinite : α → Bool
  /-- The larger of two numbers; an undefined value gives way to the other. -/
  larger : α → α → α
  /-- The smaller of two numbers; an undefined value gives way to the other. -/
  smaller : α → α → α
  /-- The whole part of a number that is not negative, as far as a machine word holds it. -/
  floor : α → Nat
  exp : α → α
  log : α → α
  /-- So close to zero that it must not be divided by. -/
  isNegligible : α → Bool

namespace Scalar

variable {α : Type} [Scalar α]

def ofInt (n : Int) : α :=
  if n < 0 then -ofNat n.natAbs else ofNat n.natAbs

def ratio (num den : Nat) : α :=
  ofNat num / ofNat den

/-- `x` moved into the range from `low` to `high`; an undefined value stays undefined. -/
def clamp (x low high : α) : α :=
  if less x low then low else if less high x then high else x

/-- `low ≤ x ≤ high`. -/
def isBetween (x low high : α) : Bool :=
  atMost low x && atMost x high

end Scalar

instance : Scalar Float where
  ofNat := Float.ofNat
  less x y := x < y
  atMost x y := x ≤ y
  isFinite := Float.isFinite
  larger x y := if x.isNaN then y else if x < y then y else x
  smaller x y := if x.isNaN then y else if y < x then y else x
  floor x := x.toUInt64.toNat
  exp := Float.exp
  log := Float.log
  isNegligible x := x.abs < 2.220446049250313e-16

end GpuCluster
