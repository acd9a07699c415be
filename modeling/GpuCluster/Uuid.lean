import GpuCluster.Json.Text

/-!
# Universally unique identifiers

A hundred and twenty-eight bits, written as thirty-two lower case hexadecimal digits in five groups.
They are read in either case, with or without the hyphens, in braces, or as a name in the `urn:uuid`
space.
-/

namespace GpuCluster

structure Uuid where
  value : Nat
  deriving DecidableEq, Repr

namespace Uuid

/-- The `count` lowest hexadecimal digits, most significant first. -/
def hexDigits (value : Nat) : (count : Nat) → List Char
  | 0 => []
  | count + 1 => hexDigits (value / 16) count ++ [Json.hexDigit (value % 16)]

def text (u : Uuid) : String :=
  let digits := hexDigits u.value 32
  let group := fun (start length : Nat) => String.ofList ((digits.drop start).take length)
  group 0 8 ++ "-" ++ group 8 4 ++ "-" ++ group 12 4 ++ "-" ++ group 16 4 ++ "-" ++ group 20 12

/-- Thirty-two hexadecimal digits. -/
def ofHex? (digits : List Char) : Option Uuid :=
  if digits.length = 32 then (Json.hexValue? digits).map (⟨·⟩) else none

/-- Thirty-two digits with hyphens after the eighth, twelfth, sixteenth and twentieth. -/
def ofGroups? (text : List Char) : Option Uuid :=
  if text.length = 36 ∧ [8, 13, 18, 23].all (fun i => text[i]? = some '-') then
    ofHex? (text.take 8 ++ (text.drop 9).take 4 ++ (text.drop 14).take 4 ++
      (text.drop 19).take 4 ++ text.drop 24)
  else none

def ofText? (text : String) : Option Uuid :=
  let text := text.toList
  if text.length = 32 then ofHex? text
  else if text.length = 38 ∧ text.head? = some '\x7b' ∧ text.getLast? = some '\x7d' then
    ofGroups? (text.drop 1).dropLast
  else if text.take 9 = "urn:uuid:".toList then ofGroups? (text.drop 9)
  else ofGroups? text

end Uuid

end GpuCluster
