import MlogHighlight.Text.Basic

/-!
# Categories

What a piece of source text can be classified as.
-/

namespace MlogHighlight

/-- The seven categories. -/
inductive Category where
  | functionName
  | variable
  | keyword
  | comment
  | type
  | constant
  | builtin
deriving DecidableEq, Repr

namespace Category

/-- The name a category has in vocabularies and listings. -/
def name : Category → Text
  | .functionName => "function-name"
  | .variable => "variable"
  | .keyword => "keyword"
  | .comment => "comment"
  | .type => "type"
  | .constant => "constant"
  | .builtin => "builtin"

/-- All categories. -/
def all : List Category :=
  [.functionName, .variable, .keyword, .comment, .type, .constant, .builtin]

/-- The category of a name. -/
def ofName? (s : Text) : Option Category := all.find? (·.name = s)

@[simp] theorem ofName?_name (c : Category) : ofName? c.name = some c := by
  cases c <;> rfl

theorem name_of_ofName? {s : Text} {c : Category} (h : ofName? s = some c) : c.name = s := by
  simpa using List.find?_some h

end Category

end MlogHighlight
