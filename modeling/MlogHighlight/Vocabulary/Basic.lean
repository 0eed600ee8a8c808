import MlogHighlight.Text.Basic

/-!
# Vocabularies

A vocabulary is a list of sets of words. Its order matters: a word found in several sets belongs to
the first of them.
-/

namespace MlogHighlight

/-- A named set of words with the category they get and the transform that gives them their form in
source text. Category and transform are names, so that sets made by hand may hold unknown ones. -/
structure VocabularySet where
  name : Text
  category : Text
  transform : Text
  words : List Text
deriving DecidableEq, Repr

/-- Sets of words, in order of precedence. -/
abbrev Vocabulary := List VocabularySet

end MlogHighlight
