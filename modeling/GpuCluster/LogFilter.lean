import GpuCluster.Config
import GpuCluster.LogFile
import GpuCluster.Number.Numeral
import GpuCluster.Pattern
import GpuCluster.Text.LowerCase

/-!
# Log filters

A filter is a list of directives between commas. A directive is a level, or it names a target, a
span in brackets with a field in braces, or both, and may set a level for them after an equals sign.
A field may give a value, which is a number or a pattern.
Logging can be set up when the filter is well formed, the log file can be opened and the format is
known.
-/

namespace GpuCluster

namespace LogFilter

/-- The levels by name, from the quietest to the most verbose. -/
def levelNames : List String := ["off", "error", "warn", "info", "debug", "trace"]

/-- A number from zero to five, with or without a plus sign. -/
def isLevelNumber (text : List Char) : Bool :=
  let digits := match text with
    | '+' :: rest => rest
    | text => text
  !digits.isEmpty && digits.all Char.isDigit &&
    Number.ofDigits (Number.spanDigits digits).1 < levelNames.length

/-- A level by name, by number, or left open. -/
def isLevel (text : List Char) : Bool :=
  text.isEmpty || isLevelNumber text || levelNames.contains (String.ofList text)

/-- Digits with or without a point and a power of ten; the point may stand at either end. -/
def isDecimal (text : List Char) : Bool :=
  let (whole, text) := Number.spanDigits text
  let (fraction, text) := match text with
    | '.' :: rest => Number.spanDigits rest
    | text => ([], text)
  !(whole.isEmpty && fraction.isEmpty) && (Number.Numeral.readPower text).any (·.2.isEmpty)

/-- A double with or without a sign. -/
def isNumber (text : List Char) : Bool :=
  let size := match text with
    | '+' :: rest | '-' :: rest => rest
    | text => text
  ["inf", "infinity", "nan"].contains (String.ofList size) || isDecimal size

/-- A well formed field: its value, if any, stands between the first two equals signs. -/
def isField (text : List Char) : Bool :=
  match text.dropWhile (· != '=') with
  | [] => true
  | _ :: rest =>
    let value := rest.takeWhile (· != '=')
    isNumber value || Pattern.isValid value

/-- How far a directive has been read; places are counted in bytes. -/
inductive Progress where
  | start
  /-- Inside a level or the name of a target. -/
  | name
  | span
  /-- Inside a field that begins at this place. -/
  | field (start : Nat)
  | fieldClosed
  | spanClosed
  /-- Inside a level that begins at this place. -/
  | level (start : Nat)

/-- The text from a place on. -/
def dropBytes : Nat → List Char → List Char
  | 0, text => text
  | _ + 1, [] => []
  | n + 1, c :: rest => dropBytes (n + 1 - c.utf8Size) rest

/-- The text up to a place. -/
def takeBytes : Nat → List Char → List Char
  | 0, _ => []
  | _ + 1, [] => []
  | n + 1, c :: rest => c :: takeBytes (n + 1 - c.utf8Size) rest

/-- Reads the character at `place` of a directive. -/
def read (directive : List Char) (place : Nat) (c : Char) : Progress → Option Progress
  | .start =>
    if c = '[' then some .span
    else if c = '-' || c = ':' || c = '_' || Text.isAlphanumeric c then some .name
    else none
  | .name =>
    if c = '=' then some (.level (place + 1)) else if c = '[' then some .span else some .name
  | .span =>
    if c = ']' then some .spanClosed
    else if c = '\x7b' then some (.field (place + 1))
    else some .span
  | .field start =>
    if c = '\x7d' then
      let field := takeBytes (place - start) (dropBytes start directive)
      if !field.isEmpty && isField field then some .fieldClosed else none
    else some (.field start)
  | .fieldClosed => if c = ']' then some .spanClosed else none
  | .spanClosed => if c = '=' then some (.level (place + 1)) else none
  | .level start => some (.level start)

def readAll (directive : List Char) : (place : Nat) → List Char → Progress → Option Progress
  | _, [], progress => some progress
  | place, c :: rest, progress =>
    (read directive place c progress).bind (readAll directive (place + c.utf8Size) rest)

/-- The text without white space at either end. -/
def trim (text : List Char) : List Char :=
  ((text.dropWhile Text.isBlank).reverse.dropWhile Text.isBlank).reverse

/--
A well formed directive. It may stand between white space, but places are then counted from its
first character, and fields and levels are cut out of the padded text.
-/
def isDirective (text : List Char) : Bool :=
  match readAll text 0 (trim text) .start with
  | some .name | some .spanClosed => true
  | some (.level start) => isLevel (dropBytes start text)
  | _ => false

/-- Directives between commas, in any case of letters; empty ones are skipped. -/
def isValid (text : String) : Bool :=
  (((Text.lowerCase text.toList).splitOn ',').filter (!·.isEmpty)).all isDirective

end LogFilter

/-- Why logging cannot be set up. -/
inductive LoggingFault where
  | invalidLevel
  | unwritableFile
  | unknownFormat (name : String)

namespace LoggingPolicy

def formats : List String := ["compact", "text", ""]

/-- The first fault of a policy: its level, its file, its format. -/
def fault? (p : LoggingPolicy) : Option LoggingFault :=
  if !LogFilter.isValid p.level then some .invalidLevel
  else if p.file.any (!LogFile.canOpen ·) then some .unwritableFile
  else if p.format ∉ formats then some (.unknownFormat p.format)
  else none

end LoggingPolicy

end GpuCluster
