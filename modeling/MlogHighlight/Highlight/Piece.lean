import MlogHighlight.Classification

/-!
# Pieces

A text is highlighted in pieces. Every line is cut at the ends of its marks: a mark gives a piece
of its category, and what lies between two marks, or behind the last one, gives a plain piece. The
pieces of a text join up to the text again.
-/

namespace MlogHighlight

/-- A piece of a text, with its category unless it is plain. -/
structure Piece where
  start : Nat
  category : Option Text
  text : Text
deriving DecidableEq, Repr

namespace Piece

/-- The plain piece for a stretch of text, none for an empty one. -/
def plain (start : Nat) (s : Text) : List Piece := if s.isEmpty then [] else [⟨start, none, s⟩]

/-- The pieces of what is left of a line that starts at `lineStart`: `s`, which starts at the
position `pos` of the line, with the marks that are in it. -/
def cut (lineStart pos : Nat) (s : Text) : List Mark → List Piece
  | [] => plain (lineStart + pos) s
  | m :: marks =>
    let gap := s.take (m.span.start - pos)
    let rest := s.drop (m.span.start - pos)
    plain (lineStart + pos) gap ++
      ⟨lineStart + m.span.start, some m.category, rest.take m.span.length⟩ ::
        cut lineStart m.span.stop (rest.drop m.span.length) marks

end Piece

/-- The pieces of a line. -/
def MarkedLine.pieces (l : MarkedLine) : List Piece := Piece.cut l.line.start 0 l.line.text l.marks

/-- The pieces of a text, in order. -/
def RuleTable.pieces (table : RuleTable) (text : Text) : List Piece :=
  (table.markLines text).flatMap (·.pieces)

end MlogHighlight
