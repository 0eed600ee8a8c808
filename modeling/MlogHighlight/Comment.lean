import MlogHighlight.Text.Passage

/-!
# Comments

A comment runs from a `#` to the end of its line, the line end not included.
-/

namespace MlogHighlight.Comment

/-- The character that begins a comment. -/
def start : Char := '#'

/-- The comment of a single line, if it has one. -/
def inLine? (line : Passage) : Option Span :=
  let code := line.text.takeWhile (· ≠ start)
  let content := line.text.takeWhile (· ≠ '\n')
  if code.length < content.length then
    some ⟨line.start + code.length, line.start + content.length⟩
  else none

/-- The comments of a text, in order. -/
def spans (s : Text) : List Span := s.lines.filterMap inLine?

end MlogHighlight.Comment
