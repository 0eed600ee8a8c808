import MlogHighlight.Highlight.Token

/-!
# Highlighting for the web

Tokens are written as a page of HTML. The code stands in a `pre` element, where every run of
characters of one category on one line is a `span` element of the class of the category.

The page is in a normal form that does not depend on the version of the formatter: three dots stand
for the rules of the style sheet, and quotes in the code are written as they are.
-/

namespace MlogHighlight.Page

/-- The class of the elements of a category. -/
def cssClass : Category → Text
  | .functionName => "nf"
  | .variable => "nv"
  | .keyword => "k"
  | .comment => "c1"
  | .type => "kt"
  | .constant => "no"
  | .builtin => "nb"

/-- A character in HTML, in the normal form of the page. A quote stays as it is, also where the
formatter writes a reference for it: in the content of an element both mean the quote. -/
def escape (c : Char) : Text :=
  if c = '&' then "&amp;" else if c = '<' then "&lt;" else if c = '>' then "&gt;" else [c]

/-- A character and what it is highlighted as. -/
structure Glyph where
  category : Option Category
  char : Char
deriving DecidableEq, Repr

/-- The characters of tokens. -/
def glyphs (tokens : List Token) : List Glyph :=
  tokens.flatMap fun t => t.text.map fun c => ⟨t.category, c⟩

/-- The lines of characters, without their line ends. -/
def glyphLines : List Glyph → List (List Glyph)
  | [] => []
  | g :: rest =>
    if g.char = '\n' then [] :: glyphLines rest
    else match glyphLines rest with
      | [] => [[g]]
      | line :: lines => (g :: line) :: lines

/-- The runs of characters of one category on a line. -/
def runs : List Glyph → List (Option Category × Text)
  | [] => []
  | g :: rest =>
    match runs rest with
    | [] => [(g.category, [g.char])]
    | (category, s) :: later =>
      if category = g.category then (category, g.char :: s) :: later
      else (g.category, [g.char]) :: (category, s) :: later

/-- A run of characters of one category. -/
def renderRun : Option Category × Text → Text
  | (none, s) => s.flatMap escape
  | (some category, s) =>
    "<span class=\"" ++ cssClass category ++ "\">" ++ s.flatMap escape ++ "</span>"

/-- A line of the code. -/
def renderLine (line : List Glyph) : Text := Text.endLine ((runs line).flatMap renderRun)

/-- The content of the `pre` element. -/
def renderCode (tokens : List Token) : Text := (glyphLines (glyphs tokens)).flatMap renderLine

/-- The lines of the page in front of the title. -/
def opening : List Text := [
  "<!DOCTYPE html PUBLIC \"-//W3C//DTD HTML 4.01//EN\"",
  "   \"http://www.w3.org/TR/html4/strict.dtd\">",
  "<!--",
  "generated by Pygments <https://pygments.org/>",
  "Copyright 2006-present by the Pygments team.",
  "Licensed under the BSD license, see LICENSE for details.",
  "-->",
  "<html>",
  "<head>"]

/-- The lines between the title and the heading. In the normal form of the page the rules of the
style sheet, which are the same on every page, are left out. -/
def styles : List Text := [
  "  <meta http-equiv=\"content-type\" content=\"text/html; charset=None\">",
  "  <style type=\"text/css\">...</style>",
  "</head>",
  "<body>"]

/-- The page that shows `tokens` under a title, which is inserted as it is. -/
def render (title : Text) (tokens : List Token) : Text :=
  opening.flatMap Text.endLine ++
  Text.endLine ("  <title>" ++ title ++ "</title>") ++
  styles.flatMap Text.endLine ++
  Text.endLine ("<h2>" ++ title ++ "</h2>") ++
  Text.endLine [] ++
  "<div class=\"highlight\"><pre><span></span>" ++ renderCode tokens ++
  Text.endLine "</pre></div>" ++ Text.endLine "</body>" ++ Text.endLine "</html>"

end MlogHighlight.Page
