import Scriptlet.Text.Ranges

/-!
# Blank characters

The characters that separate lexemes: exactly those with the Unicode property `White_Space`.
-/

namespace Scriptlet.Text

/-- The code points with the property `White_Space`. -/
def blankRanges : Ranges :=
  [(0x9, 0xD), (0x20, 0x20), (0x85, 0x85), (0xA0, 0xA0), (0x1680, 0x1680), (0x2000, 0x200A),
   (0x2028, 0x2029), (0x202F, 0x202F), (0x205F, 0x205F), (0x3000, 0x3000)]

/-- A blank: a space, tab, line break or any other character that only separates. -/
def isBlank (c : Char) : Bool :=
  blankRanges.holds c

end Scriptlet.Text
