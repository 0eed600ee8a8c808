import MlogHighlight.Category
import MlogHighlight.Text.Layout
import MlogHighlight.Vocabulary.Basic
import MlogHighlight.Vocabulary.Element
import MlogHighlight.Vocabulary.Fault

/-!
# Parsing vocabulary texts

A vocabulary text is a sequence of declarations. Tabs count as the spaces up to the next tab stop,
also inside quotes, and all places refer to the text with the tabs expanded.

A category that does not exist is a fault of its own. Any other mismatch ends the sequence in front
of the declaration it is in, and the fault is that the text goes on there.
-/

namespace MlogHighlight.Vocabulary

/-- Reads words, at most `fuel` of them. -/
def wordsWithin : Nat → Text → List Text × Text
  | 0, s => ([], s)
  | fuel + 1, s =>
    match word? (skipGap s) with
    | none => ([], s)
    | some (word, s) =>
      let (words, rest) := wordsWithin fuel s
      (word :: words, rest)

/-- Reads all words up to the first thing that is none. -/
def words (s : Text) : List Text × Text := wordsWithin s.length s

/-- Reads what follows the category: a transform, which may be left out, and the words between
braces. -/
def body? (s : Text) : Option ((Naming.Transform × List Text) × Text) := do
  let (transform, s) := (transform? (skipGap s)).getD (.none, s)
  let s ← mark? '\x7b' (skipGap s)
  let (words, s) := words s
  let s ← mark? '\x7d' (skipGap s)
  return ((transform, words), s)

/-- What the text of a declaration turns out to be. -/
inductive Reading where
  | declared (set : VocabularySet) (rest : Text)
  | unknownCategory (rest : Text)
  | mismatch
deriving DecidableEq, Repr

/-- Reads a declaration. -/
def declaration (s : Text) : Reading :=
  match name? (skipGap s) with
  | none => .mismatch
  | some (name, s) =>
    match mark? ':' (skipGap s) with
    | none => .mismatch
    | some s =>
      let s := skipGap s
      let category := s.takeWhile isCategoryChar
      if category.isEmpty then .mismatch
      else if (Category.ofName? category).isNone then .unknownCategory s
      else match body? (s.dropWhile isCategoryChar) with
        | none => .mismatch
        | some ((transform, words), rest) => .declared ⟨name, category, transform.name, words⟩ rest

/-- What ends a sequence of declarations: an unknown category, or a text that is no declaration and
may be empty. -/
inductive Ending where
  | unknownCategory (rest : Text)
  | noDeclaration (rest : Text)
deriving DecidableEq, Repr

/-- Reads declarations, at most `fuel` of them. -/
def declarationsWithin : Nat → Text → Vocabulary × Ending
  | 0, s => ([], .noDeclaration (skipGap s))
  | fuel + 1, s =>
    match declaration s with
    | .declared set s =>
      let (sets, ending) := declarationsWithin fuel s
      (set :: sets, ending)
    | .unknownCategory rest => ([], .unknownCategory rest)
    | .mismatch => ([], .noDeclaration (skipGap s))

/-- Reads all declarations. -/
def declarations (s : Text) : Vocabulary × Ending := declarationsWithin s.length s

/-- The first name that occurred before. -/
def firstDuplicate? (seen : List Text) : Vocabulary → Option Text
  | [] => none
  | set :: sets =>
    if set.name ∈ seen then some set.name else firstDuplicate? (set.name :: seen) sets

/-- Parses a text whose tabs are expanded. -/
def parseExpanded (s : Text) : Except Fault Vocabulary :=
  match declarations s with
  | (_, .unknownCategory rest) => .error (.unknownCategory (.ofRest s rest) (quotedExcerpt rest))
  | (sets, .noDeclaration rest) =>
    if !rest.isEmpty then .error (.expectedEnd (.ofRest s rest) (quotedExcerpt rest))
    else match firstDuplicate? [] sets with
      | some name => .error (.duplicateSet name)
      | none => .ok sets

/-- The distance of the tab stops in a vocabulary text. -/
def tabWidth : Nat := 8

/-- Parses the text of a vocabulary. -/
def parse (s : Text) : Except Fault Vocabulary := parseExpanded (s.expandTabs tabWidth)

end MlogHighlight.Vocabulary
