import MlogHighlight.Unicode.Lowercase
import MlogHighlight.Unicode.WhiteSpace
import MlogHighlight.Unicode.WordClass
import MlogHighlight.Word

/-!
# Naming

How the words of a vocabulary are written in source text. A set of words names one of three
transforms: the words are used as they are, get the sigil, or are content names such as
`Titanium Conveyor`, which become `@titanium-conveyor`.
-/

namespace MlogHighlight.Naming

/-- The word behind the sigil, unless it has one. -/
def sigilName (s : Text) : Text := if s.head? = some Word.sigil then s else Word.sigil :: s

/-- What separates the words of a content name. -/
def isSeparator (c : Char) : Bool := Unicode.isWhiteSpace c || c == '_' || c == '-'

/-- Does a new word begin between these two neighbours? It does at a hump: a capital letter after a
small letter or a number. -/
def isHump (c d : Char) : Bool := (Unicode.isLower c || Unicode.isNumber c) && Unicode.isUpper d

/-- The words of a content name: they end at separators and humps. -/
def contentWords : Text → List Text
  | [] => []
  | c :: s =>
    let later := contentWords s
    if isSeparator c then later
    else match s, later with
      | d :: _, word :: rest =>
        if isSeparator d || isHump c d then [c] :: later else (c :: word) :: rest
      | _, _ => [c] :: later

/-- The part of a content name that counts: without blanks at the ends, then without sigils in
front. -/
def contentCore (s : Text) : Text := (s.trim Unicode.isBlank).dropWhile (· == Word.sigil)

/-- The form of a content name in source text: its words in lowercase, joined by hyphens, behind
the sigil; nothing for a name without words. -/
def contentName (s : Text) : Text :=
  match contentWords (contentCore s) with
  | [] => []
  | words => Word.sigil :: Text.join "-" (words.map Unicode.lower)

/-- The ways to write the words of a vocabulary. -/
inductive Transform where
  | none
  | sigil
  | content
deriving DecidableEq, Repr

namespace Transform

/-- The name a transform has in vocabularies. -/
def name : Transform → Text
  | .none => "none"
  | .sigil => "sigil"
  | .content => "content"

/-- All transforms. -/
def all : List Transform := [.none, .sigil, .content]

/-- The transform of a name. -/
def ofName? (s : Text) : Option Transform := all.find? (·.name = s)

@[simp] theorem ofName?_name (t : Transform) : ofName? t.name = some t := by
  cases t <;> rfl

theorem name_of_ofName? {s : Text} {t : Transform} (h : ofName? s = some t) : t.name = s := by
  simpa using List.find?_some h

/-- The form of a word in source text. -/
def apply : Transform → Text → Text
  | .none, s => s
  | .sigil, s => sigilName s
  | .content, s => contentName s

end Transform

end MlogHighlight.Naming
