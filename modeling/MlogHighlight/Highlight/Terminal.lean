import MlogHighlight.Highlight.Token
import MlogHighlight.Text.Layout

/-!
# Highlighting for terminals

Tokens are written in colours, with the escape sequences that terminals understand. A colour never
lasts beyond the row it is used on.
-/

namespace MlogHighlight.Terminal

/-- The colour of a category. -/
def colour : Category → Nat
  | .functionName => 32
  | .variable => 31
  | .keyword => 34
  | .comment => 37
  | .type => 36
  | .constant => 31
  | .builtin => 36

/-- Begins a colour. -/
def begin (colour : Nat) : Text := "\x1b[" ++ Text.ofNat colour ++ "m"

/-- Ends a colour. -/
def reset : Text := "\x1b[39;49;00m"

/-- A row of a token; a line feed that ends it is not coloured. -/
def renderRow (category : Option Category) (row : Text) : Text :=
  let content := row.trimEnd (· == '\n')
  let lineEnd : Text := if row.getLast? = some '\n' then ['\n'] else []
  match category with
  | none => content ++ lineEnd
  | some category => begin (colour category) ++ content ++ reset ++ lineEnd

/-- A token in its colour. -/
def renderToken (t : Token) : Text := t.text.rows.flatMap (renderRow t.category)

/-- Tokens in their colours. -/
def render (tokens : List Token) : Text := tokens.flatMap renderToken

end MlogHighlight.Terminal
