import GpuCluster.Json.Record

/-!
# Values that are read before their type is known

The type of a value may depend on a member that comes after it. Such a value is loaded as a whole:
all its strings and numbers must be readable, whether they are used or not, and it must not be
nested too deep. A constant may then be written with an empty object in the place of `null`.
-/

namespace GpuCluster.Json

/-- No loaded value may lie inside this many arrays and objects. -/
def depthLimit : Nat := 128

/-- An object with one member gives the name of a constant; what stands for nothing becomes `null`. -/
def settleConstant : Json → Json
  | .object [(key, .object [])] => .object [(key, .null)]
  | j => j

mutual

/-- The loaded value, if it is nested less than `depth` deep. -/
def load? (depth : Nat) : Json → Option Json
  | .null => some .null
  | .bool b => some (.bool b)
  | .number spelling => if (float? (.number spelling)).isSome then some (.number spelling) else none
  | .string spelling => if (text? (.string spelling)).isSome then some (.string spelling) else none
  | .array items =>
    if depth ≤ 1 then none else (loadItems? (depth - 1) items).map .array
  | .object members =>
    if depth ≤ 1 then none
    else (loadMembers? (depth - 1) members).map fun ms => settleConstant (.object ms)

def loadItems? (depth : Nat) : List Json → Option (List Json)
  | [] => some []
  | item :: items => do
    let item ← load? depth item
    let items ← loadItems? depth items
    some (item :: items)

def loadMembers? (depth : Nat) : List (String × Json) → Option (List (String × Json))
  | [] => some []
  | (key, value) :: members => do
    let _ ← text? (.string key)
    let value ← load? depth value
    let members ← loadMembers? depth members
    some ((key, value) :: members)

end

/-- Loads a value that lies inside `outer` arrays and objects. -/
def buffered? (outer : Nat) (j : Json) : Option Json :=
  j.load? (depthLimit - outer)

end GpuCluster.Json
