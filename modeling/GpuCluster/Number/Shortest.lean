import GpuCluster.Number.Binary64

/-!
# The shortest decimal of a double

A decimal reads back as a double when it lies in the interval of reals that round to it. The
interval ends half way to the neighbouring doubles, and its ends belong to it exactly when the
significand is even. Among the decimals in the interval the shortest is chosen, and of two with the
same number of digits the nearer one. All comparisons are between integers.
-/

namespace GpuCluster.Number

/-- The number `digits · 10 ^ exponent`. -/
structure Decimal where
  digits : Nat
  exponent : Int
  deriving DecidableEq, Repr

/-- What becomes of a number half way between two decimals. -/
inductive Tie where
  | toEven
  | away
  deriving DecidableEq, Repr

/-- `num / den` rounded to the nearest integer. -/
def roundDiv (num den : Nat) (tie : Tie) : Nat :=
  let quotient := num / den
  let twice := 2 * (num % den)
  if twice < den then quotient
  else if den < twice then quotient + 1
  else match tie with
    | .toEven => if quotient % 2 = 0 then quotient else quotient + 1
    | .away => quotient + 1

namespace Shortest

/-- A positive double and the interval around it, as fractions over one denominator. -/
structure Interval where
  low : Nat
  value : Nat
  high : Nat
  denominator : Nat
  closed : Bool

/--
The interval of `significand · 2 ^ exponent`. Below a power of two the neighbour is half as far
away as above it.
-/
def Interval.of (significand : Nat) (exponent : Int) : Interval :=
  let belowIsNear := significand = Binary64.fractionSize ∧ -1074 < exponent
  let below := if belowIsNear then 1 else 2
  let up := Nat.pow 2 (exponent - 2).toNat
  let down := Nat.pow 2 (2 - exponent).toNat
  { low := (4 * significand - below) * up
    value := 4 * significand * up
    high := (4 * significand + 2) * up
    denominator := down
    closed := significand % 2 = 0 }

/-- `i` on the grid of multiples of `10 ^ exponent`: the unit of the grid becomes the unit. -/
def Interval.onGrid (i : Interval) (exponent : Int) : Interval :=
  let up := Nat.pow 10 (-exponent).toNat
  { i with
    low := i.low * up
    value := i.value * up
    high := i.high * up
    denominator := i.denominator * Nat.pow 10 exponent.toNat }

/-- The integer `n` lies in the interval. -/
def Interval.holds (i : Interval) (n : Nat) : Bool :=
  let scaled := n * i.denominator
  if i.closed then i.low ≤ scaled && scaled ≤ i.high else i.low < scaled && scaled < i.high

/-- The number of decimal digits before the point, less one; negative below one. -/
def magnitude (i : Interval) : Int :=
  if i.denominator ≤ i.value then
    (Nat.repr (i.value / i.denominator)).length - 1
  else
    let inverse := (i.denominator + i.value - 1) / i.value
    Int.negOfNat (Nat.repr (inverse - 1)).length

/-- The point of the grid nearest to the value among its two neighbours in the interval. -/
def pick? (i : Interval) (tie : Tie) : Option Nat :=
  let below := i.value / i.denominator
  match i.holds below && below != 0, i.holds (below + 1) with
  | true, true => some (roundDiv i.value i.denominator tie)
  | true, false => some below
  | false, true => some (below + 1)
  | false, false => none

/-- Tries grids of `digits`, `digits + 1`, … digits, at most `more` of them. -/
def search (i : Interval) (tie : Tie) (digits : Nat) : (more : Nat) → Decimal
  | 0 =>
    let exponent := magnitude i - digits + 1
    ⟨roundDiv (i.onGrid exponent).value (i.onGrid exponent).denominator tie, exponent⟩
  | more + 1 =>
    let exponent := magnitude i - digits + 1
    match pick? (i.onGrid exponent) tie with
    | some n => ⟨n, exponent⟩
    | none => search i tie (digits + 1) more

/-- Drops final zeros, of which there are at most `more`. -/
def trim (d : Decimal) : (more : Nat) → Decimal
  | 0 => d
  | more + 1 => if d.digits % 10 = 0 then trim ⟨d.digits / 10, d.exponent + 1⟩ more else d

end Shortest

/-- The shortest decimal that reads back as `significand · 2 ^ exponent`, a positive double. -/
def shortest (significand : Nat) (exponent : Int) (tie : Tie) : Decimal :=
  Shortest.trim (Shortest.search (Shortest.Interval.of significand exponent) tie 1 16) 17

end GpuCluster.Number
