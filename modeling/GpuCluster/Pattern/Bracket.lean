import GpuCluster.Pattern.Atom
import GpuCluster.Pattern.Row

/-!
# Brackets of a pattern

A bracket lists the members of a class: characters, ranges of them, named classes and brackets in
turn. Two lists may be combined by an operator, which is a sign that is written twice. Reading a
bracket yields its nesting depth.
-/

namespace GpuCluster.Pattern

/-- The names that a class may have between colons. -/
def classNames : List String :=
  ["alnum", "alpha", "ascii", "blank", "cntrl", "digit", "graph", "lower", "print", "punct",
   "space", "upper", "word", "xdigit"]

/-- Reads a named class behind its opening bracket, and says whether it is negated. -/
def namedClass? : List Char → Option (Bool × List Char)
  | ':' :: rest =>
    let (isNegated, rest) := match rest with
      | '^' :: rest => (true, rest)
      | rest => (false, rest)
    match rest.dropWhile (· != ':') with
    | ':' :: ']' :: after =>
      let name := String.ofList (rest.takeWhile (· != ':'))
      if classNames.contains name then some (isNegated, after) else none
    | _ => none
  | _ => none

/-- Named classes hold ASCII characters, and their complements do not. -/
def Mode.admitsNamed (m : Mode) (isNegated : Bool) : Bool :=
  if m.isUnicode then !m.foldsCase else !isNegated

/-- A single member, or the end of a range. -/
def item? (m : Mode) : List Char → Option (Atom × List Char)
  | [] => none
  | '\\' :: rest => escape? m rest
  | c :: rest => some (.literal c, rest)

/-- The character that decides what a hyphen before it means; one hash is skipped as a blank. -/
def Mode.peek? (m : Mode) (text : List Char) : Option Char :=
  if m.isVerbose then
    match text.dropWhile Text.isBlank with
    | '#' :: rest => (rest.dropWhile Text.isBlank).head?
    | rest => rest.head?
  else text.head?

/-- A hyphen before this text makes a range. -/
def Mode.joins (m : Mode) (text : List Char) : Bool :=
  m.peek? text != some ']' && m.peek? text != some '-'

/-- Reads a member, or a range of them in ascending order, and returns the text behind it. -/
def member? (m : Mode) (text : List Char) : Option (List Char) :=
  match item? m text with
  | none => none
  | some (first, rest) =>
    if !first.isMember m then none
    else match m.skip rest with
    | '-' :: after =>
      if m.joins after then
        match item? m (m.skip after) with
        | none => none
        | some (last, rest) =>
          match first.char?, last.char? with
          | some a, some b => if a ≤ b && last.isMember m then some rest else none
          | _, _ => none
      else some ('-' :: after)
    | rest => some rest

/-- A bracket that has not been closed. -/
structure OpenBracket where
  /-- The nesting depth of the operations before the last operator. -/
  operations : Option Nat
  /-- The members behind it. -/
  members : Row

namespace OpenBracket

/-- The nesting depth of all that has been read. -/
def depth (b : OpenBracket) : Nat :=
  match b.operations with
  | none => b.members.depth
  | some depth => max depth b.members.depth + 1

def push (b : OpenBracket) (depth : Nat) : OpenBracket :=
  { b with members := b.members.push depth }

def operate (b : OpenBracket) : OpenBracket :=
  ⟨some b.depth, .empty⟩

end OpenBracket

/-- Reads the hyphens in front, and returns how many there are. -/
def readHyphens (m : Mode) (text : List Char) : Nat × List Char :=
  match text with
  | '-' :: rest =>
    let (n, rest) := readHyphens m (m.skip rest)
    (n + 1, rest)
  | text => (0, text)
termination_by text.length
decreasing_by
  have := length_skip_le m rest
  simp only [List.length_cons]
  omega

/--
Reads what may stand in front of the members: a caret that negates the class, and hyphens or a
closing bracket as members. The complement of a class of bytes is no class of characters.
-/
def openBracket? (m : Mode) (text : List Char) : Option (OpenBracket × List Char) :=
  let (isNegated, text) := match m.skip text with
    | '^' :: rest => (true, m.skip rest)
    | text => (false, text)
  let (hyphens, text) := readHyphens m text
  let (count, text) := match hyphens, text with
    | 0, ']' :: rest => (1, rest)
    | n, text => (n, text)
  if isNegated && !m.isUnicode then none
  else if count ≠ 0 && !(Atom.literal '-').isMember m then none
  else some (⟨none, ⟨count, 0⟩⟩, text)

/-- One step in reading the members of brackets, the innermost first. -/
inductive BracketStep where
  | more (innermost : OpenBracket) (outer : List OpenBracket) (rest : List Char)
  | closed (depth : Nat) (rest : List Char)

def bracketStep? (m : Mode) (b : OpenBracket) (outer : List OpenBracket) (text : List Char) :
    Option BracketStep :=
  match text with
  | [] => none
  | '[' :: rest =>
    match namedClass? rest with
    | some (isNegated, rest) =>
      if m.admitsNamed isNegated then some (.more (b.push 0) outer rest) else none
    | none => (openBracket? m rest).map fun (inner, rest) => .more inner (b :: outer) rest
  | ']' :: rest =>
    match outer with
    | [] => some (.closed (b.depth + 1) rest)
    | next :: outer => some (.more (next.push (b.depth + 1)) outer rest)
  | '&' :: '&' :: rest | '-' :: '-' :: rest | '~' :: '~' :: rest =>
    some (.more b.operate outer rest)
  | text => (member? m text).map (.more (b.push 0) outer)

theorem length_lt_of_namedClass? {isNegated : Bool} {text rest : List Char}
    (h : namedClass? text = some (isNegated, rest)) : rest.length < text.length := by
  have hd := fun (l : List Char) => (List.dropWhile_suffix (l := l) (· != ':')).length_le
  fun_cases namedClass? text <;> simp only [namedClass?, *] at h <;> grind

theorem length_lt_of_item? {m : Mode} {a : Atom} {text rest : List Char}
    (h : item? m text = some (a, rest)) : rest.length < text.length := by
  fun_cases item? m text <;> simp only [item?, *] at h <;> grind [→ length_lt_of_escape?]

theorem length_lt_of_member? {m : Mode} {text rest : List Char}
    (h : member? m text = some rest) : rest.length < text.length := by
  fun_cases member? m text <;> simp only [member?, *] at h <;>
    grind [→ length_lt_of_item?, length_skip_le]

theorem length_readHyphens_le (m : Mode) (text : List Char) :
    (readHyphens m text).2.length ≤ text.length := by
  fun_induction readHyphens m text <;> grind [length_skip_le]

theorem length_le_of_openBracket? {m : Mode} {b : OpenBracket} {text rest : List Char}
    (h : openBracket? m text = some (b, rest)) : rest.length ≤ text.length := by
  fun_cases openBracket? m text <;> simp only [openBracket?, *] at h <;>
    grind [length_readHyphens_le, length_skip_le]

/-- Each step takes a part of the text. -/
theorem length_lt_of_bracketStep? {m : Mode} {b innermost : OpenBracket}
    {outer further : List OpenBracket} {text rest : List Char}
    (h : bracketStep? m b outer text = some (.more innermost further rest)) :
    rest.length < text.length := by
  fun_cases bracketStep? m b outer text <;> simp only [bracketStep?, *] at h <;>
    grind [= Option.map_eq_some_iff, → length_lt_of_namedClass?, → length_le_of_openBracket?,
      → length_lt_of_member?]

theorem length_lt_of_closed {m : Mode} {b : OpenBracket} {outer : List OpenBracket}
    {depth : Nat} {text rest : List Char}
    (h : bracketStep? m b outer text = some (.closed depth rest)) : rest.length < text.length := by
  fun_cases bracketStep? m b outer text <;> simp only [bracketStep?, *] at h <;>
    grind [= Option.map_eq_some_iff]

/-- Reads the members of open brackets up to the end of the outermost. -/
def readBrackets (m : Mode) (b : OpenBracket) (outer : List OpenBracket) (text : List Char) :
    Option (Nat × List Char) :=
  match _ : bracketStep? m b outer (m.skip text) with
  | none => none
  | some (.closed depth rest) => some (depth, rest)
  | some (.more b outer rest) => readBrackets m b outer rest
termination_by text.length
decreasing_by
  exact Nat.lt_of_lt_of_le (length_lt_of_bracketStep? ‹_›) (length_skip_le m text)

/-- Reads a bracket behind its opening character, and returns its nesting depth. -/
def bracket? (m : Mode) (text : List Char) : Option (Nat × List Char) :=
  (openBracket? m text).bind fun (b, rest) => readBrackets m b [] rest

theorem length_lt_of_readBrackets {m : Mode} {b : OpenBracket} {outer : List OpenBracket}
    {depth : Nat} {text rest : List Char}
    (h : readBrackets m b outer text = some (depth, rest)) : rest.length < text.length := by
  fun_induction readBrackets m b outer text <;>
    grind [length_skip_le, → length_lt_of_bracketStep?, → length_lt_of_closed]

theorem length_lt_of_bracket? {m : Mode} {depth : Nat} {text rest : List Char}
    (h : bracket? m text = some (depth, rest)) : rest.length < text.length := by
  obtain ⟨⟨b, behind⟩, ho, hr⟩ := Option.bind_eq_some_iff.1 h
  exact Nat.lt_of_lt_of_le (length_lt_of_readBrackets hr) (length_le_of_openBracket? ho)

end GpuCluster.Pattern
