import MlogHighlight.Vocabulary.Excerpt

/-!
# Faults of vocabulary texts

What can be wrong with the text of a vocabulary, where, and how it is reported.
-/

namespace MlogHighlight.Vocabulary

/-- A place in a text: the number of characters in front of it, its line and its column; lines and
columns count from one. -/
structure Place where
  offset : Nat
  line : Nat
  column : Nat
deriving DecidableEq, Repr

/-- The place right after `before`. -/
def Place.after (before : Text) : Place where
  offset := before.length
  line := before.count '\n' + 1
  column := (before.reverse.takeWhile (· ≠ '\n')).length + 1

/-- The place in `whole` where its ending `rest` begins. -/
def Place.ofRest (whole rest : Text) : Place := .after (whole.take (whole.length - rest.length))

/-- The wording of a place. -/
def Place.message (p : Place) : Text :=
  "(at char " ++ Text.ofNat p.offset ++ "), (line:" ++ Text.ofNat p.line ++ ", col:" ++
    Text.ofNat p.column ++ ")"

/-- What is wrong with a text: a category that does not exist, something that is no declaration, or
two sets of one name. The first two say where, and what is found there. -/
inductive Fault where
  | unknownCategory (place : Place) (found : Text)
  | expectedEnd (place : Place) (found : Text)
  | duplicateSet (name : Text)
deriving DecidableEq, Repr

/-- The wording of a fault at a place. -/
def foundMessage (what : Text) (place : Place) (found : Text) : Text :=
  what ++ ", found " ++ found ++ "  " ++ place.message

/-- The wording of a fault. -/
def Fault.message : Fault → Text
  | .unknownCategory place found => foundMessage "unknown category" place found
  | .expectedEnd place found => foundMessage "Expected end of text" place found
  | .duplicateSet name => "duplicate set: " ++ name

/-- A report, behind the name of the source it is about if that is known. -/
def report (message : Text) : Option Text → Text
  | none => message
  | some source => source ++ ": " ++ message

end MlogHighlight.Vocabulary
