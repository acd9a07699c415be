import GpuCluster.Number.Shortest

/-!
# Numbers as text

Four layouts of a double: the shortest decimal written out in full, the shortest decimal as a JSON
number, a fixed number of places, and a fixed number of significant digits.
-/

namespace GpuCluster.Number

def zeros (count : Nat) : String :=
  String.ofList (List.replicate count '0')

/-- Puts the point before the last `places` digits of `n`, with at least one digit before it. -/
def pointed (n places : Nat) : String :=
  let digits := (Nat.repr n).toList
  let padded := List.replicate (places + 1 - digits.length) '0' ++ digits
  let whole := padded.take (padded.length - places)
  match padded.drop (padded.length - places) with
  | [] => String.ofList whole
  | fraction => String.ofList (whole ++ '.' :: fraction)

/-- All digits, without an exponent. -/
def Decimal.positional (d : Decimal) : String :=
  if 0 ≤ d.exponent then Nat.repr d.digits ++ zeros d.exponent.toNat
  else pointed d.digits d.exponent.natAbs

/-- One digit before the point, the others after it, and the exponent as `mark` writes it. -/
def scientific (digits : Nat) (exponent : Int) (mark : Int → String) : String :=
  match (Nat.repr digits).toList with
  | [] => ""
  | [d] => String.ofList [d] ++ mark exponent
  | d :: rest => String.ofList (d :: '.' :: rest) ++ mark exponent

/-- Writes the sign, zero and the values that are no number, and leaves the rest to `body`. -/
def layOut (zero : String) (body : (significand : Nat) → (exponent : Int) → String) (x : Float) :
    String :=
  match Binary64.ofFloat x with
  | .nan => "NaN"
  | .infinite negative => if negative then "-inf" else "inf"
  | .finite negative significand exponent =>
    let magnitude := if significand = 0 then zero else body significand exponent
    if negative then "-" ++ magnitude else magnitude

/-- The shortest decimal in full; a tie between two of them goes away from zero. -/
def inFull (x : Float) : String :=
  layOut "0" (fun m q => (shortest m q .away).positional) x

/-- An exponent with its sign. -/
def signedExponent (e : Int) : String :=
  if e < 0 then "e-" ++ Nat.repr e.natAbs else "e+" ++ Nat.repr e.natAbs

/-- A JSON number: positional with at least one place from `1e-5` up to `1e16`, else scientific. -/
def asJson (x : Float) : String :=
  let body := fun m q =>
    let d := shortest m q .toEven
    let point : Int := (Nat.repr d.digits).length + d.exponent
    if -5 < point ∧ point ≤ 16 then
      if 0 ≤ d.exponent then d.positional ++ ".0" else d.positional
    else scientific d.digits (point - 1) signedExponent
  layOut "0.0" body x

/-- `places` digits after the point, a half going to the even neighbour. -/
def withPlaces (places : Nat) (x : Float) : String :=
  let body := fun (m : Nat) (q : Int) =>
    let num := m * Nat.pow 2 q.toNat * Nat.pow 10 places
    pointed (roundDiv num (Nat.pow 2 (-q).toNat) .toEven) places
  layOut (pointed 0 places) body x

/-- A bare exponent, with a sign only when it is negative. -/
def bareExponent (e : Int) : String :=
  "e" ++ toString e

/-- `count` significant digits and an exponent, a half going to the even neighbour. -/
def withSignificant (count : Nat) (x : Float) : String :=
  let body := fun m q =>
    let value := Shortest.Interval.of m q
    let exponent := Shortest.magnitude value
    let grid := value.onGrid (exponent - count + 1)
    let digits := roundDiv grid.value grid.denominator .toEven
    if digits = Nat.pow 10 count then scientific (digits / 10) (exponent + 1) bareExponent
    else scientific digits exponent bareExponent
  layOut "0" body x

end GpuCluster.Number
