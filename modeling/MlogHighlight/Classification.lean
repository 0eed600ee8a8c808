import MlogHighlight.Annotation
import MlogHighlight.RuleTable

/-!
# Classification

The rules of a table claim spans of a line in order of precedence. A span is kept if no character
of it has been claimed by a span kept before, so the first rule to claim a character wins and the
spans that are kept do not overlap. Lines are classified one by one.
-/

namespace MlogHighlight

/-- A span of a line, claimed for a category. -/
structure Mark where
  span : Span
  category : Text
deriving DecidableEq, Repr

namespace Mark

/-- Adds a mark to marks in order of their starts. -/
def insert (m : Mark) : List Mark → List Mark
  | [] => [m]
  | k :: kept => if m.span.start < k.span.start then m :: k :: kept else k :: insert m kept

/-- Adds a mark unless it overlaps one that has been kept. -/
def claim (kept : List Mark) (m : Mark) : List Mark :=
  if kept.any fun k => k.span.overlaps m.span then kept else m.insert kept

/-- The annotation of a mark of a line that starts at `offset`. -/
def annotate (m : Mark) (offset : Int) : Annotation :=
  ⟨m.span.start + offset, m.span.stop + offset, m.category⟩

end Mark

/-- What a rule would mark. -/
def Rule.marks (rule : Rule) (line : Text) : List Mark :=
  (rule.matcher.spans line).map fun span => ⟨span, rule.category⟩

/-- Is the character part of a line end? -/
def isLineEnd (c : Char) : Bool := c == '\r' || c == '\n'

/-- A line of a text with its marks, whose positions are relative to the line. -/
structure MarkedLine where
  line : Passage
  marks : List Mark
deriving DecidableEq, Repr

/-- The annotations of a line, at their positions in the text. -/
def MarkedLine.annotations (l : MarkedLine) : List Annotation :=
  l.marks.map (·.annotate l.line.start)

namespace RuleTable

/-- The marks that all rules would make, in order of precedence. -/
def candidates (table : RuleTable) (line : Text) : List Mark := table.flatMap (·.marks line)

/-- The marks of a line, in order. -/
def marks (table : RuleTable) (line : Text) : List Mark :=
  (table.candidates line).foldl Mark.claim []

/-- The annotations of a line that starts at `offset`, in order. -/
def classify (table : RuleTable) (line : Text) (offset : Int) : List Annotation :=
  (table.marks line).map (·.annotate offset)

/-- The lines of a text, each classified without its line end. -/
def markLines (table : RuleTable) (text : Text) : List MarkedLine :=
  text.lines.map fun line => ⟨line, table.marks (line.text.trimEnd isLineEnd)⟩

end RuleTable

end MlogHighlight
