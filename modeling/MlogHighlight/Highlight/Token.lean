import MlogHighlight.Highlight.Piece

/-!
# Tokens

Only the seven categories can be highlighted. A token is a piece of one of them, or plain.
-/

namespace MlogHighlight

/-- A piece of text as it is highlighted. -/
structure Token where
  start : Nat
  category : Option Category
  text : Text
deriving DecidableEq, Repr

/-- Some piece is of a category that does not exist. -/
structure UnknownCategory where
  category : Text
deriving DecidableEq, Repr

/-- The wording of the error. -/
def UnknownCategory.message (e : UnknownCategory) : Text := e.category.quoted

/-- The token of a piece. -/
def Piece.token (p : Piece) : Except UnknownCategory Token :=
  match p.category with
  | none => .ok ⟨p.start, none, p.text⟩
  | some name =>
    match Category.ofName? name with
    | some category => .ok ⟨p.start, some category, p.text⟩
    | none => .error ⟨name⟩

/-- The tokens of a text; the first piece of an unknown category is an error. -/
def RuleTable.tokens (table : RuleTable) (text : Text) : Except UnknownCategory (List Token) :=
  (table.pieces text).mapM Piece.token

/-- The tokens of pieces, taken one after the other, and the error that ends them, if one does. -/
def Piece.emit : List Piece → List Token × Option UnknownCategory
  | [] => ([], none)
  | p :: later =>
    match p.token with
    | .error e => ([], some e)
    | .ok t => (t :: (emit later).1, (emit later).2)

/-- The tokens of a text up to the first piece of an unknown category, and the error there. -/
def RuleTable.emitted (table : RuleTable) (text : Text) : List Token × Option UnknownCategory :=
  Piece.emit (table.pieces text)

/-- The customary name of the kind of token that a category is highlighted as. -/
def Category.tokenKind : Category → Text
  | .functionName => "Token.Name.Function"
  | .variable => "Token.Name.Variable"
  | .keyword => "Token.Keyword"
  | .comment => "Token.Comment.Single"
  | .type => "Token.Keyword.Type"
  | .constant => "Token.Name.Constant"
  | .builtin => "Token.Name.Builtin"

/-- The customary name of the kind of a token. -/
def Token.kind (t : Token) : Text :=
  match t.category with
  | none => "Token.Text"
  | some category => category.tokenKind

end MlogHighlight
