import GpuCluster.Json

/-!
# Text inside JSON strings

Only the quote, the reverse solidus and the control characters below the blank are escaped when
text is written. Reading resolves every escape; two escapes that form a surrogate pair stand for one
character, and half a pair stands for none.
-/

namespace GpuCluster.Json

def hexDigit (n : Nat) : Char :=
  if n < 10 then Char.ofNat ('0'.toNat + n) else Char.ofNat ('a'.toNat + (n - 10))

def escapeChar (c : Char) : List Char :=
  match c with
  | '"' => ['\\', '"']
  | '\\' => ['\\', '\\']
  | '\x08' => ['\\', 'b']
  | '\x0c' => ['\\', 'f']
  | '\n' => ['\\', 'n']
  | '\r' => ['\\', 'r']
  | '\t' => ['\\', 't']
  | c =>
    if c.toNat < 0x20 then ['\\', 'u', '0', '0', hexDigit (c.toNat / 16), hexDigit (c.toNat % 16)]
    else [c]

def escape (text : List Char) : List Char :=
  text.flatMap escapeChar

/-- The value of four hexadecimal digits, of either case. -/
def hexValue? (digits : List Char) : Option Nat :=
  digits.foldl (fun n c => do
    let n ← n
    if c.isDigit then some (16 * n + (c.toNat - '0'.toNat))
    else if 'a' ≤ c ∧ c ≤ 'f' then some (16 * n + (c.toNat - 'a'.toNat + 10))
    else if 'A' ≤ c ∧ c ≤ 'F' then some (16 * n + (c.toNat - 'A'.toNat + 10))
    else none) (some 0)

/-- The character that a reverse solidus and one letter stand for. -/
def simpleEscape? : Char → Option Char
  | '"' => some '"'
  | '\\' => some '\\'
  | '/' => some '/'
  | 'b' => some '\x08'
  | 'f' => some '\x0c'
  | 'n' => some '\n'
  | 'r' => some '\r'
  | 't' => some '\t'
  | _ => none

def isHighSurrogate (n : Nat) : Bool := 0xD800 ≤ n && n < 0xDC00

def isLowSurrogate (n : Nat) : Bool := 0xDC00 ≤ n && n < 0xE000

/-- Every escape is one of the known ones, and no control character stands bare. -/
def isWellEscaped : List Char → Bool
  | [] => true
  | '\\' :: 'u' :: a :: b :: c :: d :: rest => (hexValue? [a, b, c, d]).isSome && isWellEscaped rest
  | '\\' :: c :: rest => (simpleEscape? c).isSome && isWellEscaped rest
  | ['\\'] => false
  | c :: rest => 0x20 ≤ c.toNat && isWellEscaped rest

/-- The text that a well escaped spelling stands for. -/
def unescape? : List Char → Option (List Char)
  | [] => some []
  | '\\' :: 'u' :: a :: b :: c :: d :: '\\' :: 'u' :: e :: f :: g :: h :: rest => do
    let first ← hexValue? [a, b, c, d]
    if isHighSurrogate first then
      let second ← hexValue? [e, f, g, h]
      guard (isLowSurrogate second = true)
      let text ← unescape? rest
      some (Char.ofNat (0x10000 + (first - 0xD800) * 0x400 + (second - 0xDC00)) :: text)
    else if isLowSurrogate first then none
    else
      let text ← unescape? ('\\' :: 'u' :: e :: f :: g :: h :: rest)
      some (Char.ofNat first :: text)
  | '\\' :: 'u' :: a :: b :: c :: d :: rest => do
    let first ← hexValue? [a, b, c, d]
    guard (¬ isHighSurrogate first = true ∧ ¬ isLowSurrogate first = true)
    let text ← unescape? rest
    some (Char.ofNat first :: text)
  | '\\' :: c :: rest => do
    let c ← simpleEscape? c
    let text ← unescape? rest
    some (c :: text)
  | ['\\'] => none
  | c :: rest => do
    let text ← unescape? rest
    some (c :: text)

/-- The JSON string that stands for `text`. -/
def ofText (text : String) : Json :=
  .string (String.ofList (escape text.toList))

/-- The text that a JSON string stands for. -/
def text? : Json → Option String
  | .string spelling => (unescape? spelling.toList).map String.ofList
  | _ => none

end GpuCluster.Json
