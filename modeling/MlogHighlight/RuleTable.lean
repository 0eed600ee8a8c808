import MlogHighlight.Category
import MlogHighlight.Comment
import MlogHighlight.Label
import MlogHighlight.Naming
import MlogHighlight.Text.Quoted
import MlogHighlight.Vocabulary.Packaged
import MlogHighlight.Word

/-!
# Rule tables

A rule finds spans of a line and says what category they get. A table is a list of rules in order
of precedence. The tables built from vocabularies begin with the three rules for comments and
labels, and have one rule for each set of words, in the order of the sets.
-/

namespace MlogHighlight

/-- What a rule looks for: comments, the label a line defines, the label it refers to, or words out
of a list. -/
inductive Matcher where
  | comment
  | labelDefinition
  | labelReference
  | members (words : List Text)
deriving DecidableEq, Repr

/-- The spans of a line that are looked for, in order. -/
def Matcher.spans : Matcher → Text → List Span
  | .comment, line => Comment.spans line
  | .labelDefinition, line => (Label.definition? line).toList.map (·.span)
  | .labelReference, line => (Label.reference? line).toList.map (·.span)
  | .members words, line => ((Word.all line).filter (·.text ∈ words)).map (·.span)

/-- A named rule. -/
structure Rule where
  name : Text
  category : Text
  matcher : Matcher
deriving DecidableEq, Repr

/-- Rules in order of precedence. -/
abbrev RuleTable := List Rule

/-- A set of words asks for a transform that does not exist. -/
structure UnknownTransform where
  transform : Text
deriving DecidableEq, Repr

/-- The wording of the error. -/
def UnknownTransform.message (e : UnknownTransform) : Text := e.transform.quoted

namespace VocabularySet

/-- The words of a set in the form they have in source text, each once; words that are empty then
are left out. -/
def members (set : VocabularySet) (transform : Naming.Transform) : List Text :=
  ((set.words.map transform.apply).filter (· ≠ [])).eraseDups

/-- The rule that finds the words of a set. -/
def rule (set : VocabularySet) : Except UnknownTransform Rule :=
  match Naming.Transform.ofName? set.transform with
  | none => .error ⟨set.transform⟩
  | some transform => .ok ⟨set.name, set.category, .members (set.members transform)⟩

end VocabularySet

namespace RuleTable

/-- The rules for comments and labels. -/
def structural : RuleTable := [
  ⟨"comment", Category.comment.name, .comment⟩,
  ⟨"label-definition", Category.functionName.name, .labelDefinition⟩,
  ⟨"label-reference", Category.functionName.name, .labelReference⟩]

/-- The table for a vocabulary. -/
def build (sets : Vocabulary) : Except UnknownTransform RuleTable :=
  (sets.mapM VocabularySet.rule).map (structural ++ ·)

/-- The table for the packaged vocabulary. -/
def packaged : RuleTable := (build Vocabulary.packaged).toOption.getD structural

theorem build_packaged : build Vocabulary.packaged = .ok packaged := rfl

end RuleTable

/-- How a matcher is shown: a pattern in the notation of regular expressions and the number of the
group whose span is meant, or a list of words by code point. -/
inductive Matcher.Display where
  | pattern (source : Text) (group : Nat)
  | words (members : List Text)

/-- The display of a matcher. -/
def Matcher.display : Matcher → Matcher.Display
  | .comment => .pattern "#.*" 0
  | .labelDefinition =>
    .pattern "\\A\\s*([\\p\x7bL\x7d_][\\p\x7bL\x7d\\p\x7bN\x7d_-]*):\\s*\\Z" 1
  | .labelReference =>
    .pattern "\\A\\s*jump\\s+([\\p\x7bL\x7d_][\\p\x7bL\x7d\\p\x7bN\x7d_-]*)(?![^\\s#])" 1
  | .members words => .words (words.mergeSort Text.precedes)

/-- The line that shows a rule: its name, its category, and its pattern or the number of its
words. -/
def Rule.line (rule : Rule) : Text :=
  let matched : Text :=
    match rule.matcher.display with
    | .pattern source _ => "/" ++ source ++ "/"
    | .words members => Text.ofNat members.length ++ " word(s)"
  rule.name.padTo 18 ++ " " ++ rule.category.padTo 14 ++ " " ++ matched

/-- The lines that show a table. -/
def RuleTable.listing (table : RuleTable) : Text := table.flatMap fun rule => Text.endLine rule.line

end MlogHighlight
