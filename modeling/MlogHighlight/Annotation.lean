import MlogHighlight.Text.Quoted

/-!
# Annotations

An annotation says what category a span of a text has. Positions are integers, because a line may
be placed anywhere, also in front of the text it is compared with.
-/

namespace MlogHighlight

/-- The characters from `start` up to `stop` are of a category. -/
structure Annotation where
  start : Int
  stop : Int
  category : Text
deriving DecidableEq, Repr

namespace Annotation

/-- The annotation moved by a distance. -/
def shift (a : Annotation) (distance : Int) : Annotation :=
  { a with start := a.start + distance, stop := a.stop + distance }

/-- The characters of `line` that the annotation is about. -/
def content (a : Annotation) (line : Text) : Text := line.slice a.start a.stop

/-- The annotation in words: its positions, its category and the quoted characters. -/
def describe (a : Annotation) (line : Text) : Text :=
  Text.ofInt a.start ++ "-" ++ Text.ofInt a.stop ++ " " ++ a.category ++ " " ++
    (a.content line).quoted

end Annotation

end MlogHighlight
