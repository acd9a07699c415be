import GpuCluster.Json.Text
import GpuCluster.Number.Numeral
import GpuCluster.Timestamp.Calendar
import GpuCluster.Toml.Value

/-!
# Strings, numbers and dates in TOML

A basic string knows escapes and a literal one does not; three quotes let either span lines. Digits
may be grouped by single underscores.
-/

namespace GpuCluster.Toml

open Number

def isSpace (c : Char) : Bool := c = ' ' || c = '\t'

def skipSpace (text : List Char) : List Char := text.dropWhile isSpace

/-- A line end: a line feed, or one after a carriage return. -/
def newline? : List Char → Option (List Char)
  | '\n' :: rest => some rest
  | '\r' :: '\n' :: rest => some rest
  | _ => none

/-- A character that may stand for itself in a comment or string. -/
def isPlain (c : Char) : Bool :=
  c = '\t' || (0x20 ≤ c.toNat && c.toNat ≠ 0x7F)

/-- The character with that code point, unless it is a surrogate. -/
def scalar? (n : Nat) : Option Char :=
  if h : n.isValidChar then some (Char.ofNatAux n h) else none

/-- An escape, after the reverse solidus. -/
def escape : Part Char
  | 'b' :: rest => some ('\x08', rest)
  | 't' :: rest => some ('\t', rest)
  | 'n' :: rest => some ('\n', rest)
  | 'f' :: rest => some ('\x0c', rest)
  | 'r' :: rest => some ('\r', rest)
  | '"' :: rest => some ('"', rest)
  | '\\' :: rest => some ('\\', rest)
  | 'u' :: rest => do
    guard (4 ≤ rest.length)
    let n ← Json.hexValue? (rest.take 4)
    let c ← scalar? n
    some (c, rest.drop 4)
  | 'U' :: rest => do
    guard (8 ≤ rest.length)
    let n ← Json.hexValue? (rest.take 8)
    let c ← scalar? n
    some (c, rest.drop 8)
  | _ => none

/-- The rest of a string in single quotes. -/
def literalBody : (fuel : Nat) → (collected : List Char) → Part String
  | 0, _, _ => none
  | fuel + 1, collected, text =>
    match text with
    | '\'' :: rest => some (String.ofList collected.reverse, rest)
    | c :: rest => if isPlain c then literalBody fuel (c :: collected) rest else none
    | [] => none

/-- The rest of a string in double quotes. -/
def basicBody : (fuel : Nat) → (collected : List Char) → Part String
  | 0, _, _ => none
  | fuel + 1, collected, text =>
    match text with
    | '"' :: rest => some (String.ofList collected.reverse, rest)
    | '\\' :: rest => do
      let (c, rest) ← escape rest
      basicBody fuel (c :: collected) rest
    | c :: rest => if isPlain c then basicBody fuel (c :: collected) rest else none
    | [] => none

/-- Three quotes end a string; one or two more before them belong to it. -/
def closing? (quote : Char) (text : List Char) : Option (List Char × List Char) :=
  let quotes := (text.takeWhile (· = quote)).length
  if 3 ≤ quotes then
    let extra := min (quotes - 3) 2
    some (List.replicate extra quote, text.drop (extra + 3))
  else none

/-- Skips white space and line ends up to the next other character. -/
def skipLines : (fuel : Nat) → List Char → List Char
  | 0, text => text
  | fuel + 1, text =>
    match newline? (skipSpace text) with
    | some rest => skipLines fuel rest
    | none => skipSpace text

/-- The rest of a string that may span lines. -/
def linesBody (quote : Char) : (fuel : Nat) → (collected : List Char) → Part String
  | 0, _, _ => none
  | fuel + 1, collected, text =>
    match closing? quote text with
    | some (extra, rest) => some (String.ofList (collected.reverse ++ extra), rest)
    | none =>
      match newline? text with
      | some rest => linesBody quote fuel ('\n' :: collected) rest
      | none =>
        match text with
        | '\\' :: rest =>
          if quote = '"' then
            match newline? (skipSpace rest) with
            | some rest => linesBody quote fuel collected (skipLines rest.length rest)
            | none => do
              let (c, rest) ← escape rest
              linesBody quote fuel (c :: collected) rest
          else linesBody quote fuel ('\\' :: collected) rest
        | c :: rest => if isPlain c then linesBody quote fuel (c :: collected) rest else none
        | [] => none

/-- A line end right after the opening quotes does not count. -/
def afterOpening (text : List Char) : List Char :=
  (newline? text).getD text

/-- A string of any of the four kinds. -/
def quoted : Part String
  | '"' :: '"' :: '"' :: rest => linesBody '"' (rest.length + 1) [] (afterOpening rest)
  | '\'' :: '\'' :: '\'' :: rest => linesBody '\'' (rest.length + 1) [] (afterOpening rest)
  | '"' :: rest => basicBody (rest.length + 1) [] rest
  | '\'' :: rest => literalBody (rest.length + 1) [] rest
  | _ => none

/-- Digits of a base, single underscores between them left out. -/
def groupedDigits (digit? : Char → Option Nat) : Part (List Nat)
  | [] => none
  | c :: rest => do
    let d ← digit? c
    match rest with
    | '_' :: rest => (groupedDigits digit? rest).map fun (ds, rest) => (d :: ds, rest)
    | [] => some ([d], [])
    | next :: rest =>
      if (digit? next).isSome then
        (groupedDigits digit? (next :: rest)).map fun (ds, rest) => (d :: ds, rest)
      else some ([d], next :: rest)
termination_by text => text.length

def digitBelow (base : Nat) (c : Char) : Option Nat :=
  (Json.hexValue? [c]).bind fun d => if d < base then some d else none

def ofBase (base : Nat) (digits : List Nat) : Nat :=
  digits.foldl (fun n d => base * n + d) 0

/-- An integer with sixty-four bits and a sign. -/
def integer? (n : Int) : Option Toml :=
  if -(Number.Numeral.signedBound : Int) ≤ n ∧ n < Number.Numeral.signedBound then some (.integer n) else none

def based (base : Nat) : Part Toml := fun text => do
  let (digits, rest) ← groupedDigits (digitBelow base) text
  let n ← integer? (ofBase base digits)
  some (n, rest)

/-- A sign: whether it is negative, and whether it was written. -/
def sign : List Char → Bool × Bool × List Char
  | '-' :: rest => (true, true, rest)
  | '+' :: rest => (false, true, rest)
  | rest => (false, false, rest)

/-- The digits after a point, or none without a point. -/
def fraction : Part (Option (List Nat))
  | '.' :: rest => (groupedDigits digit? rest).map fun (ds, rest) => (some ds, rest)
  | text => some (none, text)

/-- The power of ten after the letter `e`, or none without it. -/
def power : Part (Option Int)
  | c :: rest =>
    if c = 'e' ∨ c = 'E' then
      let (negative, _, rest) := sign rest
      (groupedDigits digit? rest).map fun (ds, rest) =>
        (some (if negative then -(ofDigits ds : Int) else ofDigits ds), rest)
    else some (none, c :: rest)
  | [] => some (none, [])

/-- `digits · 10 ^ power`, correctly rounded. -/
def decimal (digits : Nat) (power : Int) : Float :=
  if digits = 0 then 0
  else if (Nat.repr digits).length + power < -400 then 0
  else if 400 < (Nat.repr digits).length + power then 1 / 0
  else Float.ofScientific digits (power < 0) power.natAbs

/-- A number in decimal notation. A float must not exceed the doubles on the positive side. -/
def decimalNumber : Part Toml := fun text => do
  let (negative, _, text) := sign text
  let (whole, text) ← groupedDigits digit? text
  guard (noLeadingZero whole = true)
  let (places, text) ← fraction text
  let (exponent, text) ← power text
  match places, exponent with
  | none, none =>
    let n : Int := ofDigits whole
    let value ← integer? (if negative then -n else n)
    some (value, text)
  | _, _ =>
    let places := places.getD []
    let size := decimal (ofDigits (whole ++ places)) (exponent.getD 0 - places.length)
    guard (negative = true ∨ size.isInf = false)
    some (.float (if negative then -size else size), text)
where
  noLeadingZero : List Nat → Bool
    | 0 :: _ :: _ => false
    | _ => true

/-- A number in any notation. -/
def number : Part Toml := fun text =>
  match text with
  | '0' :: 'x' :: rest => based 16 rest
  | '0' :: 'o' :: rest => based 8 rest
  | '0' :: 'b' :: rest => based 2 rest
  | _ =>
    let (negative, _, rest) := sign text
    match rest with
    | 'i' :: 'n' :: 'f' :: rest => some (.float (if negative then -1 / 0 else 1 / 0), rest)
    | 'n' :: 'a' :: 'n' :: rest => some (.float (0 / 0), rest)
    | _ => decimalNumber text

/-- Exactly `count` digits. -/
def fixedDigits (count : Nat) : Part Nat := fun text => do
  let digits ← (text.take count).mapM digit?
  guard (digits.length = count)
  some (ofDigits digits, text.drop count)

def expect (c : Char) : List Char → Option (List Char)
  | d :: rest => if c = d then some rest else none
  | [] => none

/-- A date, which must exist. -/
def date (text : List Char) : Option (List Char) := do
  let (year, text) ← fixedDigits 4 text
  let text ← expect '-' text
  let (month, text) ← fixedDigits 2 text
  let text ← expect '-' text
  let (day, text) ← fixedDigits 2 text
  guard ((Timestamp.Date.mk year month day).isValid = true)
  some text

/-- A time of day with seconds. -/
def timeOfDay (text : List Char) : Option (List Char) := do
  let (hour, text) ← fixedDigits 2 text
  let text ← expect ':' text
  let (minute, text) ← fixedDigits 2 text
  let text ← expect ':' text
  let (second, text) ← fixedDigits 2 text
  guard (hour ≤ 23 ∧ minute ≤ 59 ∧ second ≤ 60)
  match text with
  | '.' :: rest =>
    match spanDigits rest with
    | ([], _) => none
    | (_, rest) => some rest
  | text => some text

/-- An offset, if there is one. -/
def offset (text : List Char) : Option (List Char) :=
  let hoursAndMinutes := fun (rest : List Char) => do
    let (hour, rest) ← fixedDigits 2 rest
    let rest ← expect ':' rest
    let (minute, rest) ← fixedDigits 2 rest
    guard (hour ≤ 23 ∧ minute ≤ 59)
    some rest
  match text with
  | 'Z' :: rest | 'z' :: rest => some rest
  | '+' :: rest | '-' :: rest => hoursAndMinutes rest
  | text => some text

/-- A date, a time, or both. -/
def moment (text : List Char) : Option (List Char) :=
  match text with
  | _ :: _ :: ':' :: _ => timeOfDay text
  | _ => do
    let text ← date text
    match text with
    | 'T' :: rest | 't' :: rest => (timeOfDay rest).bind offset
    | ' ' :: c :: rest =>
      if c.isDigit then (timeOfDay (c :: rest)).bind offset else some text
    | text => some text

/-- A text that begins like a date or a time of day. -/
def looksLikeMoment : List Char → Bool
  | a :: b :: ':' :: _ => a.isDigit && b.isDigit
  | a :: b :: c :: d :: '-' :: _ => a.isDigit && b.isDigit && c.isDigit && d.isDigit
  | _ => false

end GpuCluster.Toml
