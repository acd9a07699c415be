import GpuCluster.Json.Assembly
import GpuCluster.Json.Text
import GpuCluster.Number.Numeral

/-!
# From text to tokens

The text is scanned one character at a time. A string lasts to the next quote that is not escaped,
a number or a word as long as its characters last, and what was collected is judged at its end.
-/

namespace GpuCluster.Json

/-- What is being collected, its characters latest first. -/
inductive Scanning where
  | nothing
  | string (collected : List Char)
  | escape (collected : List Char)
  | number (collected : List Char)
  | word (collected : List Char)

def isSpace (c : Char) : Bool :=
  c = ' ' || c = '\n' || c = '\t' || c = '\r'

def inNumber (c : Char) : Bool :=
  c.isDigit || c = '-' || c = '+' || c = '.' || c = 'e' || c = 'E'

def punctuation? : Char → Option Token
  | '[' => some .openArray
  | ']' => some .closeArray
  | '\x7b' => some .openObject
  | '\x7d' => some .closeObject
  | ',' => some .comma
  | ':' => some .colon
  | _ => none

/-- The token that ends where `collected` ends; nothing if there is none, or it is malformed. -/
def finishToken? : Scanning → Option (List Token)
  | .nothing => some []
  | .string _ | .escape _ => none
  | .number collected =>
    let spelling := collected.reverse
    (Number.Numeral.ofChars? spelling).map fun _ => [.number (String.ofList spelling)]
  | .word collected =>
    if collected = ['l', 'l', 'u', 'n'] then some [.null]
    else if collected = ['e', 'u', 'r', 't'] then some [.bool true]
    else if collected = ['e', 's', 'l', 'a', 'f'] then some [.bool false]
    else none

/-- How a token begins. -/
def beginToken? (c : Char) : Option (List Token × Scanning) :=
  if isSpace c then some ([], .nothing)
  else if c = '"' then some ([], .string [])
  else if c = '-' || c.isDigit then some ([], .number [c])
  else if c.isLower then some ([], .word [c])
  else (punctuation? c).map fun token => ([token], .nothing)

/-- One character: the tokens it completes, and what is being collected after it. -/
def scanChar (c : Char) : Scanning → Option (List Token × Scanning)
  | .string collected =>
    if c = '"' then
      if isWellEscaped collected.reverse then
        some ([.string (String.ofList collected.reverse)], .nothing)
      else none
    else if c = '\\' then some ([], .escape collected)
    else some ([], .string (c :: collected))
  | .escape collected => some ([], .string (c :: '\\' :: collected))
  | .number collected =>
    if inNumber c then some ([], .number (c :: collected)) else do
      let done ← finishToken? (.number collected)
      let (next, scanning) ← beginToken? c
      some (done ++ next, scanning)
  | .word collected =>
    if c.isLower then some ([], .word (c :: collected)) else do
      let done ← finishToken? (.word collected)
      let (next, scanning) ← beginToken? c
      some (done ++ next, scanning)
  | .nothing => beginToken? c

def scan : List Char → Scanning → Option (List Token)
  | [], scanning => finishToken? scanning
  | c :: rest, scanning =>
    match scanChar c scanning with
    | none => none
    | some (tokens, scanning) => (scan rest scanning).map (tokens ++ ·)

/-- The value that a whole text spells. -/
def parse? (text : String) : Option Json :=
  (scan text.toList .nothing).bind ofTokens?

end GpuCluster.Json
