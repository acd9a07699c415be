/-!
# Doubles as exact numbers

A finite double is `± significand · 2 ^ exponent`. Decoding it once lets every text layout work in
exact integer arithmetic.
-/

namespace GpuCluster.Number

inductive Binary64 where
  | nan
  | infinite (negative : Bool)
  | finite (negative : Bool) (significand : Nat) (exponent : Int)
  deriving DecidableEq, Repr

namespace Binary64

/-- Fractions have fifty-two bits and lie below this bound. -/
def fractionSize : Nat := Nat.pow 2 52

/-- The bit of the sign, above eleven bits of the exponent and those of the fraction. -/
def signBit : Nat := Nat.pow 2 63

/-- The number that sixty-four bits stand for: sign, biased exponent, fraction. -/
def ofBits (bits : Nat) : Binary64 :=
  let negative := bits / signBit % 2 == 1
  let biased : Nat := bits / fractionSize % 2048
  let fraction := bits % fractionSize
  if biased = 2047 then
    if fraction = 0 then .infinite negative else .nan
  else if biased = 0 then .finite negative fraction (-1074)
  else .finite negative (fraction + fractionSize) ((biased : Int) - 1075)

def ofFloat (x : Float) : Binary64 :=
  ofBits x.toBits.toNat

end Binary64

/--
Position of a double in the total order of doubles: negative numbers below positive ones, `-0`
just below `0`, the undefined value above all.
-/
def totalRank (x : Float) : Int :=
  let bits := x.toBits.toNat
  if bits < Binary64.signBit then bits else (Binary64.signBit : Int) - 1 - bits

end GpuCluster.Number
