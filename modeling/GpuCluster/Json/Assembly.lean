import GpuCluster.Json

/-!
# From tokens to values

The containers that are still open wait on a stack. Each token either completes a value, opens a
container or closes the innermost one; `ofTokens?_tokens` says that nothing else is accepted in
between.
-/

namespace GpuCluster.Json

/-- An open container with its finished parts, latest first. -/
inductive Frame where
  | array (done : List Json)
  | object (done : List (String × Json)) (key : String)

/-- What may come next. -/
inductive Expected where
  | value
  | itemOrClose
  | keyOrClose (done : List (String × Json))
  | key (done : List (String × Json))
  | colon (done : List (String × Json)) (key : String)
  | separator (frame : Frame)
  | finish (value : Json)

/-- Hands a finished value to the innermost open container. -/
def supply (value : Json) : List Frame → Expected × List Frame
  | [] => (.finish value, [])
  | .array done :: stack => (.separator (.array (value :: done)), stack)
  | .object done key :: stack => (.separator (.object ((key, value) :: done) key), stack)

/-- The next expectation after a token. -/
def accept : Token → Expected → List Frame → Option (Expected × List Frame)
  | .closeArray, .itemOrClose, .array [] :: stack => some (supply (.array []) stack)
  | .null, .value, stack | .null, .itemOrClose, stack => some (supply .null stack)
  | .bool b, .value, stack | .bool b, .itemOrClose, stack => some (supply (.bool b) stack)
  | .number s, .value, stack | .number s, .itemOrClose, stack => some (supply (.number s) stack)
  | .string s, .value, stack | .string s, .itemOrClose, stack => some (supply (.string s) stack)
  | .openArray, .value, stack | .openArray, .itemOrClose, stack =>
    some (.itemOrClose, .array [] :: stack)
  | .openObject, .value, stack | .openObject, .itemOrClose, stack => some (.keyOrClose [], stack)
  | .closeObject, .keyOrClose done, stack => some (supply (.object done.reverse) stack)
  | .string key, .keyOrClose done, stack | .string key, .key done, stack =>
    some (.colon done key, stack)
  | .colon, .colon done key, stack => some (.value, .object done key :: stack)
  | .comma, .separator (.array done), stack => some (.value, .array done :: stack)
  | .closeArray, .separator (.array done), stack => some (supply (.array done.reverse) stack)
  | .comma, .separator (.object done _), stack => some (.key done, stack)
  | .closeObject, .separator (.object done _), stack => some (supply (.object done.reverse) stack)
  | _, _, _ => none

def assemble : List Token → Expected → List Frame → Option Json
  | [], .finish value, _ => some value
  | [], _, _ => none
  | token :: rest, expected, stack =>
    match accept token expected stack with
    | some (expected, stack) => assemble rest expected stack
    | none => none

/-- The value that the tokens spell. -/
def ofTokens? (tokens : List Token) : Option Json :=
  assemble tokens .value []

theorem supply_array (value : Json) (done : List Json) (stack : List Frame) :
    supply value (.array done :: stack) = (.separator (.array (value :: done)), stack) := rfl

theorem supply_object (value : Json) (done : List (String × Json)) (key : String)
    (stack : List Frame) :
    supply value (.object done key :: stack) =
      (.separator (.object ((key, value) :: done) key), stack) := rfl

mutual

/-- Where a value may stand, its tokens amount to the value itself. -/
theorem assemble_tokens (j : Json) (expected : Expected) (rest : List Token) (stack : List Frame)
    (h : expected = .value ∨ expected = .itemOrClose) :
    assemble (j.tokens ++ rest) expected stack =
      assemble rest (supply j stack).1 (supply j stack).2 := by
  match j with
  | .null => rcases h with rfl | rfl <;> simp [tokens, assemble, accept]
  | .bool b => rcases h with rfl | rfl <;> simp [tokens, assemble, accept]
  | .number s => rcases h with rfl | rfl <;> simp [tokens, assemble, accept]
  | .string s => rcases h with rfl | rfl <;> simp [tokens, assemble, accept]
  | .array [] => rcases h with rfl | rfl <;> simp [tokens, assemble, accept]
  | .array (item :: items) =>
    have first := assemble_tokens item .itemOrClose (itemTokens items ++ rest)
      (.array [] :: stack) (Or.inr rfl)
    have others := assemble_itemTokens items [item] rest stack
    rw [supply_array, others] at first
    rcases h with rfl | rfl <;> simpa [tokens, assemble, accept] using first
  | .object [] => rcases h with rfl | rfl <;> simp [tokens, assemble, accept]
  | .object ((key, value) :: members) =>
    have first := assemble_tokens value .value (memberTokens members ++ rest)
      (.object [] key :: stack) (Or.inl rfl)
    have others := assemble_memberTokens members [(key, value)] key rest stack
    rw [supply_object, others] at first
    rcases h with rfl | rfl <;> simpa [tokens, assemble, accept] using first

theorem assemble_itemTokens (items done : List Json) (rest : List Token) (stack : List Frame) :
    assemble (itemTokens items ++ rest) (.separator (.array done)) stack =
      assemble rest (supply (.array (done.reverse ++ items)) stack).1
        (supply (.array (done.reverse ++ items)) stack).2 := by
  match items with
  | [] => simp [itemTokens, assemble, accept]
  | item :: items =>
    have first := assemble_tokens item .value (itemTokens items ++ rest) (.array done :: stack)
      (Or.inl rfl)
    have others := assemble_itemTokens items (item :: done) rest stack
    rw [supply_array, others] at first
    simpa [itemTokens, assemble, accept] using first

theorem assemble_memberTokens (members done : List (String × Json)) (last : String)
    (rest : List Token) (stack : List Frame) :
    assemble (memberTokens members ++ rest) (.separator (.object done last)) stack =
      assemble rest (supply (.object (done.reverse ++ members)) stack).1
        (supply (.object (done.reverse ++ members)) stack).2 := by
  match members with
  | [] => simp [memberTokens, assemble, accept]
  | (key, value) :: members =>
    have first := assemble_tokens value .value (memberTokens members ++ rest)
      (.object done key :: stack) (Or.inl rfl)
    have others := assemble_memberTokens members ((key, value) :: done) key rest stack
    rw [supply_object, others] at first
    simpa [memberTokens, assemble, accept] using first

end

theorem ofTokens?_tokens (j : Json) : ofTokens? j.tokens = some j := by
  have h := assemble_tokens j .value [] [] (Or.inl rfl)
  simpa [ofTokens?, supply, assemble] using h

end GpuCluster.Json
