import GpuCluster.Json.Text
import GpuCluster.Number.Layout
import GpuCluster.Number.Numeral

/-!
# Records in JSON

A record is an object with named members or the array of its fields in order. Members of other
names are skipped, and a name that occurs twice makes the object unreadable. A field that is left
out may still have a value: its default, or `null` when it is optional and the record is an object.
-/

namespace GpuCluster.Json

open Number

def numeral? : Json → Option Numeral
  | .number spelling => Numeral.ofChars? spelling.toList
  | _ => none

def int? (j : Json) : Option Int :=
  j.numeral?.bind Numeral.toInt?

/-- An integer from `low` to `high`. -/
def intBetween? (low high : Int) (j : Json) : Option Int := do
  let n ← j.int?
  if low ≤ n ∧ n ≤ high then some n else none

/-- A natural number below `2 ^ bits`. -/
def natOfWidth? (bits : Nat) (j : Json) : Option Nat :=
  (j.intBetween? 0 (Nat.pow 2 bits - 1 : Nat)).map Int.toNat

def int64? (j : Json) : Option Int :=
  j.intBetween? (-(Numeral.signedBound : Int)) (Numeral.signedBound - 1 : Nat)

def float? (j : Json) : Option Float :=
  j.numeral?.bind Numeral.toFloat?

def bool? : Json → Option Bool
  | .bool b => some b
  | _ => none

def list? {α : Type} (item? : Json → Option α) : Json → Option (List α)
  | .array items => items.mapM item?
  | _ => none

def nullable? {α : Type} (value? : Json → Option α) : Json → Option (Option α)
  | .null => some none
  | j => (value? j).map some

/-- The name of a constant: a string, or an object that gives the name the value `null`. -/
def constant? : Json → Option String
  | .object [(key, .null)] => text? (.string key)
  | j => j.text?

/-- The constant of that name in a table of names. -/
def oneOf? {α : Type} (table : List (String × α)) (j : Json) : Option α :=
  j.constant?.bind fun name => table.lookup name

def ofInt (n : Int) : Json := .number (toString n)

def ofNat (n : Nat) : Json := .number (Nat.repr n)

/-- A number, or `null` for a value that is none. -/
def ofFloat (x : Float) : Json :=
  if x.isFinite then .number (asJson x) else .null

def ofOption {α : Type} (f : α → Json) : Option α → Json
  | none => .null
  | some a => f a

/-- The fields that were given, by name. -/
structure Record where
  given : List (String × Json)
  /-- Written as an array. -/
  positional : Bool

namespace Record

/-- The members of an object whose names are among `names`, each at most once. -/
def known? (names : List String) : List (String × Json) → Option (List (String × Json))
  | [] => some []
  | (key, value) :: members => do
    let name ← text? (.string key)
    let rest ← known? names members
    if name ∈ names then
      if rest.any (·.1 = name) then none else some ((name, value) :: rest)
    else some rest

/-- Reads a record with the given field names. -/
def read? (names : List String) : Json → Option Record
  | .object members => (known? names members).map (⟨·, false⟩)
  | .array items => if items.length ≤ names.length then some ⟨names.zip items, true⟩ else none
  | _ => none

def value? (r : Record) (name : String) : Option Json :=
  r.given.lookup name

def required? {α : Type} (r : Record) (name : String) (read? : Json → Option α) : Option α :=
  (r.value? name).bind read?

def withDefault? {α : Type} (r : Record) (name : String) (read? : Json → Option α) (default : α) :
    Option α :=
  match r.value? name with
  | none => some default
  | some j => read? j

/-- A field that may be `null`, and may be left out of an object. -/
def optional? {α : Type} (r : Record) (name : String) (read? : Json → Option α) :
    Option (Option α) :=
  match r.value? name with
  | none => if r.positional then none else some none
  | some j => j.nullable? read?

end Record

/-- An object whose member names are any texts. -/
def ofEntries (entries : List (String × Json)) : Json :=
  .object (entries.map fun (key, value) => (String.ofList (escape key.toList), value))

end GpuCluster.Json
