import GpuCluster.Text.Blank

/-!
# Modes of a pattern

Flags in parentheses switch the mode for the rest of the group, or for a group of their own. In a
verbose pattern white space and comments are skipped.
-/

namespace GpuCluster.Pattern

structure Mode where
  /-- White space and comments have no meaning. -/
  isVerbose : Bool
  /-- Letters stand for both of their cases. -/
  foldsCase : Bool
  /-- Characters are matched as a whole, and not by their bytes. -/
  isUnicode : Bool
  deriving DecidableEq, Repr

def Mode.initial : Mode := ⟨false, false, true⟩

/-- The text after white space and comments; a comment goes from a hash to the end of the line. -/
def skipFiller : (inComment : Bool) → List Char → List Char
  | _, [] => []
  | true, c :: rest => skipFiller (c != '\n') rest
  | false, c :: rest =>
    if Text.isBlank c then skipFiller false rest
    else if c = '#' then skipFiller true rest
    else c :: rest

def Mode.skip (m : Mode) (text : List Char) : List Char :=
  if m.isVerbose then skipFiller false text else text

/-- The mode with one flag switched, if there is such a flag. -/
def Mode.switch? (m : Mode) (flag : Char) (isOn : Bool) : Option Mode :=
  match flag with
  | 'x' => some { m with isVerbose := isOn }
  | 'i' => some { m with foldsCase := isOn }
  | 'u' => some { m with isUnicode := isOn }
  | 'm' | 's' => some m
  | _ => none

/-- What follows a list of flags. -/
inductive FlagsEnd where
  /-- The flags have a group of their own. -/
  | group
  /-- The flags are set for what follows. -/
  | setting
  deriving DecidableEq, Repr

/-- Flags that have been read. -/
structure Flags where
  mode : Mode
  seen : List Char
  /-- There was a minus sign, and the flags after it are switched off. -/
  isNegated : Bool
  /-- The minus sign was the last to be read. -/
  dangles : Bool

/-- Reads flags up to a colon or a closing parenthesis; each may occur once. -/
def readFlags : Flags → List Char → Option (Mode × FlagsEnd × List Char)
  | _, [] => none
  | f, ':' :: rest => if f.dangles then none else some (f.mode, .group, rest)
  | f, ')' :: rest => if f.dangles || f.seen.isEmpty then none else some (f.mode, .setting, rest)
  | f, '-' :: rest =>
    if f.isNegated then none else readFlags { f with isNegated := true, dangles := true } rest
  | f, c :: rest =>
    if c ∈ f.seen then none
    else match f.mode.switch? c (!f.isNegated) with
    | none => none
    | some mode => readFlags { f with mode, seen := c :: f.seen, dangles := false } rest

theorem length_skipFiller_le (inComment : Bool) (text : List Char) :
    (skipFiller inComment text).length ≤ text.length := by
  fun_induction skipFiller inComment text <;> simp_all <;> omega

theorem length_skip_le (m : Mode) (text : List Char) : (m.skip text).length ≤ text.length := by
  unfold Mode.skip
  split
  · exact length_skipFiller_le false text
  · exact Nat.le_refl _

theorem length_lt_of_readFlags {f : Flags} {m : Mode} {e : FlagsEnd} {text rest : List Char}
    (h : readFlags f text = some (m, e, rest)) : rest.length < text.length := by
  fun_induction readFlags f text <;> grind

end GpuCluster.Pattern
