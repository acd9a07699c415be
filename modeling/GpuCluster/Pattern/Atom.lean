import GpuCluster.Pattern.Mode

/-!
# Atoms of a pattern

An atom is a single character, also one in an escape, or it stands for one character of a class or
for a place between characters. Patterns are read in small letters, so that no escape has a capital
letter. Characters are matched without tables of their properties: letters cannot be folded, and
classes and word edges that need such tables can be used on bytes only.
-/

namespace GpuCluster.Pattern

inductive Atom where
  | literal (c : Char)
  /-- A character that is given as two hexadecimal digits. -/
  | byte (c : Char)
  | anyChar
  /-- A digit, a blank or a word character. -/
  | shorthand
  /-- The start or the end of a line or of the text. -/
  | edge
  /-- The start or the end of a word. -/
  | wordEdge
  deriving DecidableEq, Repr

def hexDigit? (c : Char) : Option Nat :=
  if c.isDigit then some (c.toNat - '0'.toNat)
  else if 'a' ≤ c ∧ c ≤ 'f' then some (c.toNat - 'a'.toNat + 10)
  else none

/-- Reads hexadecimal digits; filler may stand after each of them. -/
def hexDigits? (m : Mode) : (count value : Nat) → List Char → Option (Nat × List Char)
  | 0, value, text => some (value, text)
  | _ + 1, _, [] => none
  | count + 1, value, c :: rest =>
    (hexDigit? c).bind fun d => hexDigits? m count (16 * value + d) (m.skip rest)

/-- The character with the code point given by hexadecimal digits. -/
def codePoint? (m : Mode) (count : Nat) (text : List Char) : Option (Char × List Char) :=
  match hexDigits? m count 0 (m.skip text) with
  | some (n, rest) => if n.isValidChar then some (Char.ofNat n, rest) else none
  | none => none

/-- The characters that letters stand for in an escape. -/
def controls : List (Char × Char) :=
  [('a', '\x07'), ('f', '\x0C'), ('t', '\t'), ('n', '\n'), ('r', '\r'), ('v', '\x0B')]

/-- Reads what follows a backslash. Other ASCII characters may be escaped to stand for themselves. -/
def escape? (m : Mode) : List Char → Option (Atom × List Char)
  | [] => none
  | c :: rest =>
    match c with
    | 'x' => (codePoint? m 2 rest).map fun (c, rest) => (.byte c, rest)
    | 'u' => (codePoint? m 4 rest).map fun (c, rest) => (.literal c, rest)
    | 'd' | 's' | 'w' => some (.shorthand, rest)
    | 'z' => some (.edge, rest)
    | 'b' => if rest.head? = some '\x7b' then none else some (.wordEdge, rest)
    | '<' | '>' => some (.wordEdge, rest)
    | _ =>
      if 0x80 ≤ c.toNat then none
      else if c.isAlphanum then (controls.lookup c).map fun c => (.literal c, rest)
      else some (.literal c, rest)

/-- Reads an atom outside of brackets. -/
def atom? (m : Mode) : List Char → Option (Atom × List Char)
  | [] => none
  | '\\' :: rest => escape? m rest
  | '.' :: rest => some (.anyChar, rest)
  | '^' :: rest | '$' :: rest => some (.edge, rest)
  | c :: rest => some (.literal c, rest)

/-- The atom can be matched in a mode. -/
def Atom.isUsable (m : Mode) : Atom → Bool
  | literal _ => !(m.isUnicode && m.foldsCase)
  | byte c => if m.isUnicode then !m.foldsCase else c.toNat < 0x80
  | anyChar => m.isUnicode
  | shorthand => !m.isUnicode
  | edge => true
  | wordEdge => !m.isUnicode

/-- The atom can be matched as a member of a class. -/
def Atom.isMember (m : Mode) : Atom → Bool
  | literal c | byte c => if m.isUnicode then !m.foldsCase else c.toNat < 0x80
  | shorthand => !m.isUnicode
  | _ => false

/-- The character that an atom is, if it can be an end of a range. -/
def Atom.char? : Atom → Option Char
  | literal c | byte c => some c
  | _ => none

theorem length_le_of_hexDigits? {m : Mode} {count value n : Nat} {text rest : List Char}
    (h : hexDigits? m count value text = some (n, rest)) : rest.length ≤ text.length := by
  fun_induction hexDigits? m count value text with
  | case1 => simp_all
  | case2 => simp at h
  | case3 _ _ _ text ih =>
    obtain ⟨d, _, hd⟩ := Option.bind_eq_some_iff.1 h
    grind [length_skip_le]

theorem length_le_of_codePoint? {m : Mode} {count : Nat} {c : Char} {text rest : List Char}
    (h : codePoint? m count text = some (c, rest)) : rest.length ≤ text.length := by
  fun_cases codePoint? m count text <;> simp only [codePoint?, *] at h <;>
    grind [→ length_le_of_hexDigits?, length_skip_le]

/-- An escape is at least one character long. -/
theorem length_lt_of_escape? {m : Mode} {a : Atom} {text rest : List Char}
    (h : escape? m text = some (a, rest)) : rest.length < text.length := by
  fun_cases escape? m text <;> simp only [escape?, *] at h <;>
    grind [= Option.map_eq_some_iff, → length_le_of_codePoint?]

/-- An atom is at least one character long. -/
theorem length_lt_of_atom? {m : Mode} {a : Atom} {text rest : List Char}
    (h : atom? m text = some (a, rest)) : rest.length < text.length := by
  fun_cases atom? m text <;> simp only [atom?, *] at h <;> grind [→ length_lt_of_escape?]

end GpuCluster.Pattern
