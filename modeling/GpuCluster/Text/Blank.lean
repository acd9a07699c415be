import GpuCluster.Text.Ranges

/-!
# White space

A character is blank when it has the Unicode property `White_Space`. Device ids and host names
must hold something else, and time stamps may be padded with it.
-/

namespace GpuCluster.Text

/-- The code points of the property, as closed ranges. -/
def blankRanges : List (Nat × Nat) :=
  [(0x09, 0x0D), (0x20, 0x20), (0x85, 0x85), (0xA0, 0xA0), (0x1680, 0x1680), (0x2000, 0x200A),
   (0x2028, 0x2029), (0x202F, 0x202F), (0x205F, 0x205F), (0x3000, 0x3000)]

def isBlank (c : Char) : Bool := isWithin blankRanges c

/-- Nothing but white space, in particular the empty text. -/
def allBlank (s : String) : Bool :=
  s.toList.all isBlank

/-- The text after its leading white space. -/
def skipBlanks (s : List Char) : List Char :=
  s.dropWhile isBlank

end GpuCluster.Text
