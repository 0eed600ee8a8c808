import MlogHighlight.Classification

/-!
# Listings

The annotations of a text, one per line: the name of the text, the number of the line, the
positions in the line, the category and the annotated characters, `main.mlog:2:2-5: keyword 'end'`.
-/

namespace MlogHighlight.Listing

/-- An annotation in a listing; lines count from one, positions from the start of the line. -/
structure Record where
  line : Nat
  start : Nat
  stop : Nat
  category : Text
  text : Text
deriving DecidableEq, Repr

/-- The line of a record, for a text called `name`. -/
def Record.render (name : Text) (r : Record) : Text :=
  name ++ ":" ++ Text.ofNat r.line ++ ":" ++ Text.ofNat r.start ++ "-" ++ Text.ofNat r.stop ++
    ": " ++ r.category ++ " " ++ r.text.quoted

/-- The record of a mark of a line. -/
def record (number : Nat) (line : Passage) (m : Mark) : Record :=
  ⟨number, m.span.start, m.span.stop, m.category, (line.text.drop m.span.start).take m.span.length⟩

/-- The records of lines, the first of which has the number `number`. -/
def recordsFrom (number : Nat) : List MarkedLine → List Record
  | [] => []
  | l :: rest => l.marks.map (record number l.line) ++ recordsFrom (number + 1) rest

/-- The records of a text. -/
def records (table : RuleTable) (text : Text) : List Record := recordsFrom 1 (table.markLines text)

/-- The listing of a text called `name`. -/
def render (table : RuleTable) (name text : Text) : Text :=
  (records table text).flatMap fun r => Text.endLine (r.render name)

end MlogHighlight.Listing
