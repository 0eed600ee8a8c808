import MlogHighlight.Text.Passage
import MlogHighlight.Unicode.WordClass

/-!
# Words

The words of a line are what vocabularies are about. A word is a whole run of letters, numbers,
underscores, hyphens and sigils `@`, so nothing inside a longer identifier is ever a word. A run
counts only if it begins with a letter, number or underscore, behind at most one sigil.
-/

namespace MlogHighlight.Word

/-- The character that introduces built-in names. -/
def sigil : Char := '@'

/-- Letters, numbers and the underscore: what a word may begin with. -/
def isHead (c : Char) : Bool := Unicode.isLetter c || Unicode.isNumber c || c == '_'

/-- What a word may go on with. -/
def isBody (c : Char) : Bool := isHead c || c == '-' || c == sigil

/-- Does a run of word characters begin like a word? -/
def beginsWord : Text → Bool
  | [] => false
  | c :: s => isHead c || c == sigil && (s.head?.any isHead)

/-- The words of a line. -/
def all (line : Text) : List Passage := (line.runs isBody).filter fun run => beginsWord run.text

end MlogHighlight.Word
