import MlogHighlight.Proofs.Line
import MlogHighlight.Proofs.Run
import MlogHighlight.Vocabulary.Parser

/-!
# Layouts of vocabulary texts

A layout is a vocabulary text taken apart: its declarations, the elements they are made of, and the
gap in front of each element. The same vocabulary can be laid out in many ways. Every element is as
long as it can be, so whether a layout is one of its text depends on what follows each element: a
layout *fits*. The text of a layout is always written together with the text behind it. Main
definitions:

* `IsGap`: white space and comments in front of a text;
* `VocabularySet.Usable`: a set whose category and transform exist;
* `WordLayout`, `BodyLayout`, `DeclarationLayout`, `Layout`: the parts of a layout, each with its
  `text` and with `Fits`;
* `Layout.vocabulary`: the sets that a layout declares.
-/

namespace MlogHighlight

/-- The category and the transform of the set exist. -/
structure VocabularySet.Usable (set : VocabularySet) : Prop where
  category : ∃ category, Category.ofName? set.category = some category
  transform : ∃ transform, Naming.Transform.ofName? set.transform = some transform

namespace Vocabulary

open Text

/-! ## Gaps -/

/-- May a gap begin with the character? -/
def beginsGap (c : Char) : Bool := isGapChar c || c == '#'

/-- The first text is a gap in front of the second one: a run of white space and of comments, which
go on up to a line feed or the end. -/
inductive IsGap : Text → Text → Prop where
  | nil (rest : Text) : IsGap [] rest
  | blank (c : Char) (gap rest : Text) : isGapChar c = true → IsGap gap rest → IsGap (c :: gap) rest
  | comment (words gap rest : Text) : '\n' ∉ words → AtLineEnd (gap ++ rest) → IsGap gap rest →
      IsGap ('#' :: words ++ gap) rest

/-! ## Sequences -/

section Sequence

variable {α : Type} (text : α → Text → Text) (fits : α → Text → Prop)

/-- The text of a sequence of elements, each behind its gap, in front of `rest`. -/
def sequenceText : List (Text × α) → Text → Text
  | [], rest => rest
  | (gap, a) :: items, rest => gap ++ text a (sequenceText items rest)

/-- The elements and the gaps of the sequence fit in front of what follows them. -/
def SequenceFits : List (Text × α) → Text → Prop
  | [], _ => True
  | (gap, a) :: items, rest =>
    IsGap gap (text a (sequenceText text items rest)) ∧ fits a (sequenceText text items rest) ∧
      SequenceFits items rest

end Sequence

/-! ## Words -/

/-- A word as it stands, or between double quotes. -/
inductive WordLayout where
  | bare (word : Text)
  | quoted (body : Text)
deriving DecidableEq, Repr

namespace WordLayout

/-- The text of a word in front of `rest`. -/
def text : WordLayout → Text → Text
  | bare word, rest => word ++ rest
  | quoted body, rest => '"' :: (body ++ '"' :: rest)

/-- The word, with its escapes decoded if it is quoted. -/
def value : WordLayout → Text
  | bare word => word
  | quoted body => unescape body

/-- A bare word ends where no more of its characters follow; there is no quote and no line end
inside quotes. -/
def Fits : WordLayout → Text → Prop
  | bare word, rest => word ≠ [] ∧ word.all isBareChar = true ∧ Stops isBareChar rest
  | quoted body, _ => body.all isQuotedChar = true

end WordLayout

/-! ## Declarations -/

/-- What follows the category: the transform behind its gap, if there is one, and the words between
braces. -/
structure BodyLayout where
  transform : Option (Text × Naming.Transform)
  gapOpen : Text
  words : List (Text × WordLayout)
  gapClose : Text
deriving DecidableEq, Repr

namespace BodyLayout

variable (b : BodyLayout) (rest : Text)

/-- The words and the closing brace in front of `rest`. -/
def wordsText : Text := sequenceText WordLayout.text b.words (b.gapClose ++ '\x7d' :: rest)

/-- The braces and the words between them in front of `rest`. -/
def bracesText : Text := b.gapOpen ++ '\x7b' :: b.wordsText rest

/-- The text of a body in front of `rest`. -/
def text : Text :=
  match b.transform with
  | none => b.bracesText rest
  | some (gap, transform) => gap ++ (transform.name ++ b.bracesText rest)

/-- No transform is the transform `none`. -/
def transformValue : Naming.Transform := (b.transform.map (·.2)).getD .none

/-- The words in order. -/
def values : List Text := b.words.map (·.2.value)

/-- The parts of the body fit in front of `rest`. -/
structure Fits : Prop where
  transform : ∀ gap transform, b.transform = some (gap, transform) →
    IsGap gap (transform.name ++ b.bracesText rest) ∧ endsTransform (b.bracesText rest) = true
  gapOpen : IsGap b.gapOpen ('\x7b' :: b.wordsText rest)
  words : SequenceFits WordLayout.text WordLayout.Fits b.words (b.gapClose ++ '\x7d' :: rest)
  gapClose : IsGap b.gapClose ('\x7d' :: rest)

end BodyLayout

/-- Is the text the name of a set? -/
def isName : Text → Bool
  | [] => false
  | c :: s => isNameHead c && s.all isNameBody

/-- What a declaration begins with: a name, a colon, and what stands for the category. -/
structure HeadLayout where
  name : Text
  gapColon : Text
  gapCategory : Text
  category : Text
deriving DecidableEq, Repr

namespace HeadLayout

variable (head : HeadLayout) (rest : Text)

/-- The text of a head in front of `rest`. -/
def text : Text :=
  head.name ++ (head.gapColon ++ ':' :: (head.gapCategory ++ (head.category ++ rest)))

/-- The parts of the head fit in front of `rest`; any run of its characters may stand for a
category. -/
structure Fits : Prop where
  name : isName head.name = true
  nameEnd : Stops isNameBody (head.gapColon ++ ':' :: (head.gapCategory ++ (head.category ++ rest)))
  gapColon : IsGap head.gapColon (':' :: (head.gapCategory ++ (head.category ++ rest)))
  gapCategory : IsGap head.gapCategory (head.category ++ rest)
  category_ne_nil : head.category ≠ []
  category_all : head.category.all isCategoryChar = true
  categoryEnd : Stops isCategoryChar rest

end HeadLayout

/-- The name, the category and the body of a declaration. -/
structure DeclarationLayout where
  name : Text
  gapColon : Text
  gapCategory : Text
  category : Category
  body : BodyLayout
deriving DecidableEq, Repr

namespace DeclarationLayout

variable (d : DeclarationLayout) (rest : Text)

/-- What follows the colon, in front of `rest`. -/
def categoryText : Text := d.gapCategory ++ (d.category.name ++ d.body.text rest)

/-- The text of a declaration in front of `rest`. -/
def text : Text := d.name ++ (d.gapColon ++ ':' :: d.categoryText rest)

/-- The set that is declared. -/
def set : VocabularySet :=
  ⟨d.name, d.category.name, d.body.transformValue.name, d.body.values⟩

/-- The parts of the declaration fit in front of `rest`. -/
structure Fits : Prop where
  name : isName d.name = true
  nameEnd : Stops isNameBody (d.gapColon ++ ':' :: d.categoryText rest)
  gapColon : IsGap d.gapColon (':' :: d.categoryText rest)
  gapCategory : IsGap d.gapCategory (d.category.name ++ d.body.text rest)
  categoryEnd : Stops isCategoryChar (d.body.text rest)
  body : d.body.Fits rest

/-- The part of the declaration in front of its body. -/
def head : HeadLayout := ⟨d.name, d.gapColon, d.gapCategory, d.category.name⟩

/-- A set that is declared is usable. -/
theorem usable_set : d.set.Usable where
  category := ⟨d.category, Category.ofName?_name d.category⟩
  transform := ⟨d.body.transformValue, Naming.Transform.ofName?_name d.body.transformValue⟩

end DeclarationLayout

/-! ## Texts in front of a text -/

section Sequence

variable {α : Type} {text : α → Text → Text} {fits : α → Text → Prop}

theorem sequenceText_append (items items' : List (Text × α)) (rest : Text) :
    sequenceText text (items ++ items') rest =
      sequenceText text items (sequenceText text items' rest) := by
  induction items with
  | nil => rfl
  | cons item items ih => rw [List.cons_append, sequenceText, ih, sequenceText]

theorem sequenceFits_append {items items' : List (Text × α)} {rest : Text} :
    SequenceFits text fits (items ++ items') rest ↔
      SequenceFits text fits items (sequenceText text items' rest) ∧
        SequenceFits text fits items' rest := by
  induction items with
  | nil => simp [SequenceFits]
  | cons item items ih =>
    rw [List.cons_append, SequenceFits, ih, SequenceFits, sequenceText_append]
    simp only [and_assoc]

/-- A text that is appended to a sequence follows its last element. -/
theorem sequenceText_append_text (htext : ∀ a s t, text a s ++ t = text a (s ++ t))
    (items : List (Text × α)) (s t : Text) :
    sequenceText text items s ++ t = sequenceText text items (s ++ t) := by
  induction items with
  | nil => rfl
  | cons item items ih => rw [sequenceText, List.append_assoc, htext, ih, sequenceText]

end Sequence

theorem WordLayout.text_append (w : WordLayout) (s t : Text) : w.text s ++ t = w.text (s ++ t) := by
  cases w <;> simp [text]

theorem BodyLayout.text_append (b : BodyLayout) (s t : Text) : b.text s ++ t = b.text (s ++ t) := by
  have hwords : b.wordsText s ++ t = b.wordsText (s ++ t) := by
    rw [wordsText, sequenceText_append_text WordLayout.text_append, List.append_assoc,
      List.cons_append, wordsText]
  have hbraces : b.bracesText s ++ t = b.bracesText (s ++ t) := by
    rw [bracesText, List.append_assoc, List.cons_append, hwords, bracesText]
  unfold text
  split
  · exact hbraces
  · rw [List.append_assoc, List.append_assoc, hbraces]

theorem DeclarationLayout.text_append (d : DeclarationLayout) (s t : Text) :
    d.text s ++ t = d.text (s ++ t) := by
  simp only [text, categoryText, List.append_assoc, List.cons_append, BodyLayout.text_append]

/-! ## Texts -/

/-- The declarations of a text, each behind its gap, and the gap at the end. -/
structure Layout where
  declarations : List (Text × DeclarationLayout)
  lastGap : Text
deriving DecidableEq, Repr

namespace Layout

variable (layout : Layout)

/-- The text that is laid out. -/
def text : Text := sequenceText DeclarationLayout.text layout.declarations layout.lastGap

/-- All parts of the layout fit. -/
structure Fits : Prop where
  declarations :
    SequenceFits DeclarationLayout.text DeclarationLayout.Fits layout.declarations layout.lastGap
  lastGap : IsGap layout.lastGap []

/-- The sets that are declared, in order. -/
def vocabulary : Vocabulary := layout.declarations.map (·.2.set)

end Layout

end Vocabulary

end MlogHighlight
