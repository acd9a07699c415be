import GpuCluster.Pattern.Bracket
import GpuCluster.Text.Alphanumeric

/-!
# Patterns

A pattern is made of alternatives, these of items, and an item is an atom, a bracket or a group, and
may be repeated. A pattern is valid when it is well formed, can be matched in its modes and is not
nested too deeply. It is written between braces, so that it holds no closing brace.
-/

namespace GpuCluster.Pattern

/-- A group that has not been closed, or the pattern as a whole. -/
structure OpenGroup where
  /-- The mode behind the group. -/
  outside : Mode
  /-- The alternatives before the last bar. -/
  alternatives : Row
  /-- The items behind it. -/
  items : Row
  /-- The nesting depth of the last item, if it can be repeated. -/
  repeatable : Option Nat

namespace OpenGroup

def start (outside : Mode) : OpenGroup := ⟨outside, .empty, .empty, none⟩

/-- The nesting depth of all that has been read. -/
def depth (g : OpenGroup) : Nat := (g.alternatives.push g.items.depth).depth

/-- The group with one more item of the given depth. -/
def push (g : OpenGroup) (depth : Nat) : OpenGroup :=
  { g with items := g.items.push depth, repeatable := some depth }

/-- The group with flags that are set for what follows: an item, but none that can be repeated. -/
def pushFlags (g : OpenGroup) : OpenGroup :=
  { g with items := g.items.push 0, repeatable := none }

/-- The group at the start of its next alternative. -/
def branch (g : OpenGroup) : OpenGroup :=
  { g with alternatives := g.alternatives.push g.items.depth, items := .empty, repeatable := none }

/-- The group with its last item repeated. -/
def repeatLast? (g : OpenGroup) : Option OpenGroup :=
  g.repeatable.map fun depth =>
    { g with items := g.items.deepen (depth + 1), repeatable := some (depth + 1) }

end OpenGroup

/-- How far a pattern has been read. -/
structure Progress where
  mode : Mode
  innermost : OpenGroup
  outer : List OpenGroup
  /-- The names of groups, which are given once. -/
  names : List (List Char)

namespace Progress

def start : Progress := ⟨.initial, .start .initial, [], []⟩

def push (p : Progress) (depth : Nat) : Progress :=
  { p with innermost := p.innermost.push depth }

/-- Opens a group whose items are read in the given mode. -/
def openGroup (p : Progress) (mode : Mode) : Progress :=
  { p with mode, innermost := .start p.mode, outer := p.innermost :: p.outer }

/-- Closes the innermost group, if there is one. -/
def closeGroup? (p : Progress) : Option Progress :=
  match p.outer with
  | [] => none
  | next :: outer =>
    some { p with
      mode := p.innermost.outside
      innermost := next.push (p.innermost.depth + 1)
      outer }

end Progress

/-- A character of the name of a group. -/
def isNameChar (c : Char) : Bool :=
  c = '_' || c = '.' || c = '[' || c = ']' || Text.isAlphanumeric c

/-- Reads the name of a group and the angle bracket at its end. -/
def groupName? (text : List Char) : Option (List Char × List Char) :=
  match text.takeWhile (· != '>'), text.dropWhile (· != '>') with
  | c :: name, '>' :: rest =>
    if (c = '_' || Text.isAlphabetic c) && name.all isNameChar then some (c :: name, rest) else none
  | _, _ => none

/-- Reads the start of a group behind its parenthesis, or flags that make up the parentheses. -/
def groupStart? (p : Progress) : List Char → Option (Progress × List Char)
  | '?' :: '<' :: rest =>
    match groupName? rest with
    | none => none
    | some (name, rest) =>
      if name ∈ p.names then none
      else some ({ p.openGroup p.mode with names := name :: p.names }, rest)
  | '?' :: rest =>
    match readFlags ⟨p.mode, [], false, false⟩ rest with
    | none => none
    | some (mode, .group, rest) => some (p.openGroup mode, rest)
    | some (mode, .setting, rest) =>
      some ({ p with mode, innermost := p.innermost.pushFlags }, rest)
  | rest => some (p.openGroup p.mode, rest)

/-- Text without a question mark in front, which makes a repetition prefer fewer rounds. -/
def skipPreference : List Char → List Char
  | '?' :: rest => rest
  | rest => rest

/-- Reads one part of a pattern. A number of rounds in braces has no closing brace. -/
def step? (p : Progress) (text : List Char) : Option (Progress × List Char) :=
  match text with
  | '(' :: rest => groupStart? p (p.mode.skip rest)
  | ')' :: rest => p.closeGroup?.map (·, rest)
  | '|' :: rest => some ({ p with innermost := p.innermost.branch }, rest)
  | '[' :: rest => (bracket? p.mode rest).map fun (depth, rest) => (p.push depth, rest)
  | '?' :: rest | '*' :: rest | '+' :: rest =>
    p.innermost.repeatLast?.map fun innermost => ({ p with innermost }, skipPreference rest)
  | '\x7b' :: _ => none
  | text =>
    match atom? p.mode text with
    | none => none
    | some (a, rest) => if a.isUsable p.mode then some (p.push 0, rest) else none

theorem length_lt_of_groupName? {name text rest : List Char}
    (h : groupName? text = some (name, rest)) : rest.length < text.length := by
  have hd := (List.dropWhile_suffix (l := text) (· != '>')).length_le
  fun_cases groupName? text <;> simp only [groupName?, *] at h <;> grind

theorem length_le_of_groupStart? {p next : Progress} {text rest : List Char}
    (h : groupStart? p text = some (next, rest)) : rest.length ≤ text.length := by
  fun_cases groupStart? p text <;> simp only [groupStart?, *] at h <;>
    grind [→ length_lt_of_groupName?, → length_lt_of_readFlags]

theorem length_skipPreference_le (text : List Char) :
    (skipPreference text).length ≤ text.length := by
  fun_cases skipPreference text <;> simp

/-- Each step takes a part of the text. -/
theorem length_lt_of_step? {p next : Progress} {text rest : List Char}
    (h : step? p text = some (next, rest)) : rest.length < text.length := by
  fun_cases step? p text <;> simp only [step?, *] at h <;>
    grind [= Option.map_eq_some_iff, length_skip_le, length_skipPreference_le,
      → length_le_of_groupStart?, → length_lt_of_bracket?, → length_lt_of_atom?]

/-- Reads the rest of a pattern, and returns the nesting depth of the whole. -/
def readRest (p : Progress) (text : List Char) : Option Nat :=
  match p.mode.skip text, length_skip_le p.mode text with
  | [], _ => if p.outer.isEmpty then some p.innermost.depth else none
  | c :: rest, _ =>
    match _ : step? p (c :: rest) with
    | none => none
    | some (next, rest) => readRest next rest
termination_by text.length
decreasing_by
  exact Nat.lt_of_lt_of_le (length_lt_of_step? ‹_›) ‹_›

/-- Patterns may be nested this deeply. -/
def maxDepth : Nat := 250

def isValid (text : List Char) : Bool :=
  (readRest .start text).any (· ≤ maxDepth)

end GpuCluster.Pattern
