import MlogHighlight.Text.Basic

/-!
# Line ends, rows and tab stops

Three ways in which a text is laid out: line ends that are brought to one form, the rows a terminal
shows, and tab stops.
-/

namespace MlogHighlight.Text

/-- Every line end, be it a line feed, a carriage return or both, becomes a line feed. -/
def unifyLineEnds : Text → Text
  | [] => []
  | '\r' :: '\n' :: s => '\n' :: unifyLineEnds s
  | '\r' :: s => '\n' :: unifyLineEnds s
  | c :: s => c :: unifyLineEnds s

/-- The characters after which a new row begins. -/
def endsRow (c : Char) : Bool :=
  c ∈ ['\n', '\x0b', '\x0c', '\r', '\x1c', '\x1d', '\x1e', '\u0085', '\u2028', '\u2029']

/-- The rows of a text, each with the character that ends it; a carriage return and a line feed end
a row together. -/
def rows : Text → List Text
  | [] => []
  | c :: s =>
    if endsRow c && !(c == '\r' && s.head? == some '\n') then [c] :: rows s
    else match rows s with
      | [] => [[c]]
      | row :: rest => (c :: row) :: rest

/-- Expansion of tabs in a text that begins at `column`. -/
def expandTabsFrom (width column : Nat) : Text → Text
  | [] => []
  | c :: s =>
    if c = '\t' then
      let blanks := width - column % width
      List.replicate blanks ' ' ++ expandTabsFrom width (column + blanks) s
    else
      c :: expandTabsFrom width (if c = '\n' ∨ c = '\r' then 0 else column + 1) s

/-- Every tab becomes the spaces up to the next tab stop; stops are `width` columns apart, and
columns count from the last line feed or carriage return. -/
def expandTabs (width : Nat) (s : Text) : Text := expandTabsFrom width 0 s

end MlogHighlight.Text
