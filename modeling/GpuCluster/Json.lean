/-!
# JSON values

A value keeps the spelling of its strings and numbers. Reading a string or a number can then fail
where the value is used, and a member that nobody asks for needs only to be well formed.
-/

namespace GpuCluster

inductive Json where
  | null
  | bool (value : Bool)
  | number (spelling : String)
  /-- The text between the quotes, escapes included. -/
  | string (spelling : String)
  | array (items : List Json)
  | object (members : List (String × Json))
  deriving Repr, Inhabited

namespace Json

inductive Token where
  | null
  | bool (value : Bool)
  | number (spelling : String)
  | string (spelling : String)
  | openArray
  | closeArray
  | openObject
  | closeObject
  | comma
  | colon
  deriving DecidableEq, Repr

mutual

/-- The tokens of a value, in order. -/
def tokens : Json → List Token
  | .null => [.null]
  | .bool b => [.bool b]
  | .number s => [.number s]
  | .string s => [.string s]
  | .array [] => [.openArray, .closeArray]
  | .array (item :: items) => .openArray :: (item.tokens ++ itemTokens items)
  | .object [] => [.openObject, .closeObject]
  | .object ((key, value) :: members) =>
    .openObject :: .string key :: .colon :: (value.tokens ++ memberTokens members)

def itemTokens : List Json → List Token
  | [] => [.closeArray]
  | item :: items => .comma :: (item.tokens ++ itemTokens items)

def memberTokens : List (String × Json) → List Token
  | [] => [.closeObject]
  | (key, value) :: members =>
    .comma :: .string key :: .colon :: (value.tokens ++ memberTokens members)

end

def Token.text : Token → String
  | .null => "null"
  | .bool b => if b then "true" else "false"
  | .number s => s
  | .string s => "\"" ++ s ++ "\""
  | .openArray => "["
  | .closeArray => "]"
  | .openObject => "\x7b"
  | .closeObject => "\x7d"
  | .comma => ","
  | .colon => ":"

/-- The value without white space. -/
def compact (j : Json) : String :=
  String.join (j.tokens.map Token.text)

end Json

end GpuCluster
