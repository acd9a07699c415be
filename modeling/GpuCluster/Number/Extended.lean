import GpuCluster.Number.Binary64
import GpuCluster.Scalar

/-!
# Doubles with two undefined values

An undefined double stands above all others in the total order. Arithmetic on defined numbers has
an undefined result of another kind, which stands below all others. An operation on undefined
values passes the first of them on.
-/

namespace GpuCluster.Number

inductive Extended where
  | double (x : Float)
  /-- The undefined value below all others. -/
  | bottom

namespace Extended

/-- The number without the distinction of undefined values. -/
def toFloat : Extended → Float
  | double x => x
  | bottom => 0.0 / 0.0

def isUndefined (x : Extended) : Bool := x.toFloat.isNaN

/-- The result of an operation on one number. -/
def lift (f : Float → Float) : Extended → Extended
  | bottom => bottom
  | double x => if !x.isNaN && (f x).isNaN then bottom else double (f x)

/-- The result of an operation on two numbers. -/
def lift₂ (f : Float → Float → Float) (x y : Extended) : Extended :=
  if x.isUndefined then x
  else if y.isUndefined then y
  else
    let z := f x.toFloat y.toFloat
    if z.isNaN then bottom else double z

/-- The opposite number; the undefined values are opposites. -/
def opposite : Extended → Extended
  | bottom => double (0.0 / 0.0)
  | double x => if x.isNaN then bottom else double (-x)

/-- Position in the total order. -/
def rank : Extended → Int
  | double x => totalRank x
  | bottom => totalRank (-1.0 / 0.0) - 1

instance : Scalar Extended where
  add := lift₂ (· + ·)
  sub := lift₂ (· - ·)
  mul := lift₂ (· * ·)
  div := lift₂ (· / ·)
  neg := opposite
  ofNat n := double (Scalar.ofNat n)
  less x y := Scalar.less x.toFloat y.toFloat
  atMost x y := Scalar.atMost x.toFloat y.toFloat
  isFinite x := Scalar.isFinite x.toFloat
  larger x y := if x.isUndefined then y else if x.toFloat < y.toFloat then y else x
  smaller x y := if x.isUndefined then y else if y.toFloat < x.toFloat then y else x
  floor x := Scalar.floor x.toFloat
  exp := lift Float.exp
  log := lift Float.log
  isNegligible x := Scalar.isNegligible x.toFloat

end Extended

end GpuCluster.Number
