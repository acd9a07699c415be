import GpuCluster.Number.Layout
import GpuCluster.Number.Numeral
import GpuCluster.Text.Blank
import GpuCluster.Timestamp
import GpuCluster.Timestamp.Calendar

/-!
# Time stamps as text

Moments are written in the form of RFC 3339, in universal time. Reading is more liberal: white
space may stand before every number, parts may be shorter than two digits, a blank may stand for the
letter `T`, and any offset of less than a day is taken into account. Digits of a fraction beyond the
ninth are dropped.
-/

namespace GpuCluster.Timestamp

open Number Text

/-- `n` with at least `width` digits. -/
def padded (width n : Nat) : String :=
  let digits := Nat.repr n
  zeros (width - digits.length) ++ digits

/-- The fraction of a second in as few groups of three digits as hold it. -/
def fractionText (nanos : Nat) : String :=
  if nanos = 0 then ""
  else if nanos % 1000000 = 0 then "." ++ padded 3 (nanos / 1000000)
  else if nanos % 1000 = 0 then "." ++ padded 6 (nanos / 1000)
  else "." ++ padded 9 nanos

/-- A year of four digits, or of more digits and with a sign. -/
def yearText (year : Int) : String :=
  if 0 ≤ year ∧ year ≤ 9999 then padded 4 year.toNat
  else if year < 0 then "-" ++ padded 4 year.natAbs
  else "+" ++ padded 4 year.natAbs

def rfc3339 (t : Timestamp) : String :=
  let date := Date.ofDays (t.seconds / 86400)
  let second := (t.seconds % 86400).toNat
  let isLeap := 1000000000 ≤ t.nanos
  let nanos := if isLeap then t.nanos - 1000000000 else t.nanos
  yearText date.year ++ "-" ++ padded 2 date.month ++ "-" ++ padded 2 date.day ++ "T" ++
    padded 2 (second / 3600) ++ ":" ++ padded 2 (second / 60 % 60) ++ ":" ++
    padded 2 (second % 60 + if isLeap then 1 else 0) ++ fractionText nanos ++ "Z"

namespace Rfc3339

/-- A part of a text: its value and what follows. -/
abbrev Part (α : Type) := List Char → Option (α × List Char)

/-- White space and a number of one to `width` digits from `low` to `high`. -/
def number (width low high : Nat) : Part Nat := fun text =>
  let text := skipBlanks text
  match (spanDigits text).1.take width with
  | [] => none
  | digits =>
    let n := ofDigits digits
    if low ≤ n ∧ n ≤ high then some (n, text.drop digits.length) else none

/-- A year: up to four digits, or a sign and any number of digits. -/
def year : Part Int := fun text =>
  let signed := fun (rest : List Char) =>
    match spanDigits rest with
    | ([], _) => none
    | (digits, rest) => some ((ofDigits digits : Int), rest)
  match skipBlanks text with
  | '-' :: rest => (signed rest).map fun (n, rest) => (-n, rest)
  | '+' :: rest => signed rest
  | text => (number 4 0 9999 text).map fun (n, rest) => ((n : Int), rest)

/-- White space and the character `c`. -/
def mark (c : Char) (text : List Char) : Option (List Char) :=
  match skipBlanks text with
  | d :: rest => if d = c then some rest else none
  | [] => none

/-- The fraction of a second in nanoseconds. -/
def fraction : Part Nat
  | '.' :: rest =>
    match spanDigits rest with
    | ([], _) => none
    | (digits, rest) => some (ofDigits ((digits ++ List.replicate 9 0).take 9), rest)
  | text => some (0, text)

/-- Two digits. -/
def twoDigits : Part Nat
  | a :: b :: rest => do
    let a ← digit? a
    let b ← digit? b
    some (10 * a + b, rest)
  | _ => none

/-- Seconds that local time is ahead of universal time. -/
def offset : Part Int := fun text =>
  let hoursAndMinutes := fun (rest : List Char) => do
    let (hours, rest) ← twoDigits rest
    let (minutes, rest) ← twoDigits (rest.dropWhile fun c => c = ':' || isBlank c)
    if minutes < 60 then some ((3600 * hours + 60 * minutes : Nat), rest) else none
  match text with
  | 'Z' :: rest | 'z' :: rest => some (0, rest)
  | '+' :: rest => (hoursAndMinutes rest).map fun (n, rest) => ((n : Int), rest)
  | '-' :: rest | '−' :: rest => (hoursAndMinutes rest).map fun (n, rest) => (-(n : Int), rest)
  | a :: b :: c :: rest =>
    if [a, b, c].map Char.toLower = ['u', 't', 'c'] then some (0, rest) else none
  | _ => none

end Rfc3339

open Rfc3339 in
/-- The moment that a text names. -/
def ofRfc3339? (text : String) : Option Timestamp := do
  let (year, text) ← year text.toList
  let text ← mark '-' text
  let (month, text) ← number 2 1 12 text
  let text ← mark '-' text
  let (day, text) ← number 2 1 31 text
  let text ← match text with
    | 'T' :: rest | 't' :: rest | ' ' :: rest => some rest
    | _ => none
  let (hour, text) ← number 2 0 23 text
  let text ← mark ':' text
  let (minute, text) ← number 2 0 59 text
  let text ← mark ':' text
  let (second, text) ← number 2 0 60 text
  let (nanos, text) ← fraction text
  let (ahead, text) ← offset (skipBlanks text)
  guard (skipBlanks text = [] ∧ ahead.natAbs < 86400)
  let date : Date := ⟨year, month, day⟩
  guard (date.isValid = true)
  let isLeap := second = 60
  let ofDay : Nat := 3600 * hour + 60 * minute + if isLeap then 59 else second
  let seconds := 86400 * date.toDays + ofDay - ahead
  let universal := Date.ofDays (seconds / 86400)
  guard (Date.firstYear ≤ universal.year ∧ universal.year ≤ Date.lastYear)
  some ⟨seconds, if isLeap then nanos + 1000000000 else nanos⟩

end GpuCluster.Timestamp
