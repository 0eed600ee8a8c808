import MlogHighlight.Text.Passage
import MlogHighlight.Unicode.WhiteSpace
import MlogHighlight.Unicode.WordClass

/-!
# Labels

A label names a place to jump to. It is defined on a line of its own, `loop:`, and referred to
right after `jump`. Both forms may be indented.
-/

namespace MlogHighlight.Label

/-- What a label may begin with. -/
def isHead (c : Char) : Bool := Unicode.isLetter c || c == '_'

/-- What a label may go on with. -/
def isBody (c : Char) : Bool := isHead c || Unicode.isNumber c || c == '-'

/-- Is the text a label? -/
def isLabel : Text → Bool
  | [] => false
  | c :: s => isHead c && s.all isBody

/-- The label that a line defines: apart from white space at both ends, the line is a label and a
colon. -/
def definition? (line : Text) : Option Passage :=
  let indent := line.takeWhile Unicode.isWhiteSpace
  let body := line.dropWhile Unicode.isWhiteSpace
  let name := body.takeWhile isBody
  match body.dropWhile isBody with
  | ':' :: rest =>
    if isLabel name && rest.all Unicode.isWhiteSpace then some ⟨indent.length, name⟩ else none
  | _ => none

/-- May a label end in front of this text? Only white space, a comment or the end may follow. -/
def endsReference : Text → Bool
  | [] => true
  | c :: _ => Unicode.isWhiteSpace c || c == '#'

/-- The label that a line refers to: the line begins with `jump`, white space and the label. -/
def reference? (line : Text) : Option Passage :=
  let indent := line.takeWhile Unicode.isWhiteSpace
  match line.dropWhile Unicode.isWhiteSpace with
  | 'j' :: 'u' :: 'm' :: 'p' :: target =>
    let gap := target.takeWhile Unicode.isWhiteSpace
    let body := target.dropWhile Unicode.isWhiteSpace
    let name := body.takeWhile isBody
    if !gap.isEmpty && isLabel name && endsReference (body.dropWhile isBody) then
      some ⟨indent.length + 4 + gap.length, name⟩
    else none
  | _ => none

end MlogHighlight.Label
