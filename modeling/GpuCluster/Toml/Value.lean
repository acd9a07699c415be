/-!
# TOML values

Dates and times are recognised, but nothing of them is kept, because no setting has such a value.
-/

namespace GpuCluster

inductive Toml where
  | string (value : String)
  | integer (value : Int)
  | float (value : Float)
  | boolean (value : Bool)
  | instant
  | array (items : List Toml)
  | table (entries : List (String × Toml))

/-- A reader of part of a text: its value and what follows. -/
abbrev Toml.Part (α : Type) := List Char → Option (α × List Char)

end GpuCluster
