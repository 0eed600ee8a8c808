import MlogHighlight.Unicode.WhiteSpace
import MlogHighlight.Text.Basic

/-!
# Recognition

Two ways to tell that a text is mlog: the name of its file, and instructions that hardly any other
language has.
-/

namespace MlogHighlight.Recognition

/-- The endings of the names of mlog files. -/
def extensions : List Text := [".mlog", ".masm"]

/-- The last component of a path. -/
def baseName (path : Text) : Text := (path.reverse.takeWhile (· ≠ '/')).reverse

/-- Is the name that of an mlog file? -/
def isSourceName (path : Text) : Bool := extensions.any fun e => e.isSuffixOf (baseName path)

/-- Instructions that are typical of mlog. -/
def typical : List Text := ["printflush", "drawflush", "ucontrol", "sensor"]

/-- Is `word` followed by a blank at the start of the text? -/
def beginsWith (word s : Text) : Bool :=
  word.isPrefixOf s && ((s.drop word.length).head?.any Unicode.isBlank)

/-- Does the text begin with a typical instruction, blanks and blank lines aside? -/
def beginsTypically (s : Text) : Bool :=
  typical.any fun word => beginsWith word (s.dropWhile Unicode.isBlank)

/-- Does a typical instruction stand at the beginning of a line behind a line feed? -/
def laterLineIsTypical : Text → Bool
  | [] => false
  | c :: s => (c == '\n' && beginsTypically s) || laterLineIsTypical s

/-- Does a typical instruction stand at the beginning of a line? -/
def isTypical (s : Text) : Bool := beginsTypically s || laterLineIsTypical s

/-- How sure it is that the text is mlog, from zero to one. -/
def score (s : Text) : Rat := if isTypical s then 0.3 else 0

end MlogHighlight.Recognition
