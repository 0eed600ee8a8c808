import MlogHighlight.Unicode.Ranges

/-!
# White space

Two classes. White space proper is what separates the words of a line. Blanks are what is trimmed
from a text and what ends a bare word of a vocabulary: all white space, and the four information
separators `U+001C` to `U+001F` as well.
-/

namespace MlogHighlight.Unicode

/-- The property White_Space. -/
def whiteSpace : Ranges := [
  (0x9, 0xD), (0x20, 0x20), (0x85, 0x85), (0xA0, 0xA0), (0x1680, 0x1680), (0x2000, 0x200A),
  (0x2028, 0x2029), (0x202F, 0x202F), (0x205F, 0x205F), (0x3000, 0x3000)]

/-- White space proper. -/
def isWhiteSpace (c : Char) : Bool := whiteSpace.contains c.toNat

/-- The information separators: of files, groups, records and units. -/
def isInformationSeparator (c : Char) : Bool := '\x1c' ≤ c && c ≤ '\x1f'

/-- White space or an information separator. -/
def isBlank (c : Char) : Bool := isWhiteSpace c || isInformationSeparator c

theorem isBlank_of_isWhiteSpace {c : Char} (h : isWhiteSpace c = true) : isBlank c = true := by
  simp [isBlank, h]

end MlogHighlight.Unicode
