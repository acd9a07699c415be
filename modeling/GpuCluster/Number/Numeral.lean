import GpuCluster.Number.Binary64

/-!
# Numerals

A numeral is an optional minus sign, digits without a superfluous leading zero, and optionally a
fraction and a power of ten. It is read as an integer when it has neither of the last two, and as a
double by scaling: its leading digits, as many as fit sixty-four bits, are multiplied or divided by
a power of ten. Scaling rounds more than once, so the last bit of a long numeral may differ from
that of the nearest double.
-/

namespace GpuCluster.Number

structure Numeral where
  negative : Bool
  whole : List Nat
  fraction : Option (List Nat)
  power : Option (Bool × List Nat)
  deriving DecidableEq, Repr

def digit? (c : Char) : Option Nat :=
  if c.isDigit then some (c.toNat - '0'.toNat) else none

/-- The digits at the front of a text, and the rest. -/
def spanDigits : List Char → List Nat × List Char
  | [] => ([], [])
  | c :: rest =>
    match digit? c with
    | some d => (d :: (spanDigits rest).1, (spanDigits rest).2)
    | none => ([], c :: rest)

/-- The number that decimal digits stand for. -/
def ofDigits (digits : List Nat) : Nat :=
  digits.foldl (fun n d => 10 * n + d) 0

namespace Numeral

/-- A point and at least one digit, or nothing. -/
def readFraction : List Char → Option (Option (List Nat) × List Char)
  | '.' :: rest =>
    match spanDigits rest with
    | ([], _) => none
    | (digits, rest) => some (some digits, rest)
  | text => some (none, text)

/-- The letter `e`, a sign and at least one digit, or nothing. -/
def readPower (text : List Char) : Option (Option (Bool × List Nat) × List Char) :=
  let digits := fun (negative : Bool) (rest : List Char) =>
    match spanDigits rest with
    | ([], _) => none
    | (ds, rest) => some (some (negative, ds), rest)
  match text with
  | c :: rest =>
    if c = 'e' ∨ c = 'E' then
      match rest with
      | '+' :: rest => digits false rest
      | '-' :: rest => digits true rest
      | rest => digits false rest
    else some (none, text)
  | [] => some (none, [])

/-- At least one digit, and no zero before another digit. -/
def noLeadingZero : List Nat → Bool
  | [] => false
  | 0 :: _ :: _ => false
  | _ => true

/-- The numeral that makes up the whole text. -/
def ofChars? (text : List Char) : Option Numeral := do
  let (negative, text) := match text with
    | '-' :: rest => (true, rest)
    | text => (false, text)
  let (whole, text) := spanDigits text
  guard (noLeadingZero whole = true)
  let (fraction, text) ← readFraction text
  let (power, text) ← readPower text
  guard (text = [])
  some { negative, whole, fraction, power }

/-- The numeral of an integer. -/
def isWhole (n : Numeral) : Bool :=
  n.fraction.isNone && n.power.isNone

/-- Sixty-four bits hold the integers below this bound. -/
def wordBound : Nat := Nat.pow 2 64

/-- Sixty-four bits with a sign hold the integers from minus this bound to below it. -/
def signedBound : Nat := Nat.pow 2 63

/--
The integer that the numeral spells, if it fits a machine word of its sign. A minus sign before
zero makes a double, not an integer.
-/
def toInt? (n : Numeral) : Option Int :=
  let size := ofDigits n.whole
  if !n.isWhole then none
  else if n.negative then if size = 0 ∨ signedBound < size then none else some (-size)
  else if size < wordBound then some size else none

/-- Appends digits while the result fits a word; also says how many were appended. -/
def accumulate : List Nat → (significand : Nat) → Nat × Nat
  | [], significand => (significand, 0)
  | d :: rest, significand =>
    if 10 * significand + d < wordBound then
      let (s, taken) := accumulate rest (10 * significand + d)
      (s, taken + 1)
    else (significand, 0)

/-- The exponent that the numeral writes out. -/
def writtenPower (n : Numeral) : Int :=
  match n.power with
  | none => 0
  | some (negative, digits) => if negative then -ofDigits digits else ofDigits digits

/-- Significand and power of ten: digits that do not fit are dropped. -/
def leading (n : Numeral) : Nat × Int :=
  let (significand, taken) := accumulate n.whole 0
  let (significand, places) := accumulate (n.fraction.getD []) significand
  (significand, n.writtenPower + (n.whole.length - taken : Nat) - places)

/-- `10 ^ n` as a double, for `n` up to 308. -/
def powerOfTen (n : Nat) : Float :=
  Float.ofScientific 1 false n

/-- `x · 10 ^ power`, nothing if that is beyond the doubles. -/
def scale (x : Float) (power : Int) : Option Float :=
  if power.natAbs ≤ 308 then
    if 0 ≤ power then
      let scaled := x * powerOfTen power.natAbs
      if scaled.isInf then none else some scaled
    else some (x / powerOfTen power.natAbs)
  else if x == 0 then some x
  else if 0 ≤ power then none
  else scale (x / powerOfTen 308) (power + 308)
termination_by power.natAbs
decreasing_by omega

/-- The double that the numeral is read as, nothing if it is out of range. -/
def toFloat? (n : Numeral) : Option Float := do
  let (significand, power) := n.leading
  let size ← scale (Float.ofNat significand) power
  some (if n.negative then -size else size)

end Numeral

end GpuCluster.Number
