import MlogHighlight.Highlight.Page
import MlogHighlight.Highlight.Preparation
import MlogHighlight.Highlight.Terminal
import MlogHighlight.Listing

/-!
# Output formats

A classified text is shown as a listing of its annotations, in colours for a terminal, or as a page.
-/

namespace MlogHighlight

/-- How a text is shown. -/
inductive Format where
  | annotations
  | terminal
  | html
deriving DecidableEq, Repr

namespace Format

/-- The name of a format. -/
def name : Format → Text
  | .annotations => "annotations"
  | .terminal => "terminal"
  | .html => "html"

/-- All formats. -/
def all : List Format := [.annotations, .terminal, .html]

/-- The format of a name. -/
def ofName? (s : Text) : Option Format := all.find? (·.name = s)

/-- The format of a name; names without a format of their own mean a page. -/
def ofName (s : Text) : Format := (ofName? s).getD .html

/-- What is printed for a text called `name`. -/
def render (format : Format) (table : RuleTable) (name text : Text) : Except HighlightError Text :=
  match format with
  | .annotations => .ok (Listing.render table name text)
  | .terminal => (table.highlight {} text).map Terminal.render
  | .html => (table.highlight {} text).map (Page.render name)

end Format

end MlogHighlight
