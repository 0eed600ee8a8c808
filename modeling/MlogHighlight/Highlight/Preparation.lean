import MlogHighlight.Highlight.Token
import MlogHighlight.Text.Layout
import MlogHighlight.Unicode.WhiteSpace

/-!
# Preparation

Before a text is highlighted it is brought into shape: a byte order mark is dropped, line ends are
unified, and, as the options say, the ends of the text are stripped, tabs are expanded and a line
end is added.
-/

namespace MlogHighlight

/-- How a text is prepared. -/
structure Preparation where
  /-- Strip line feeds at both ends. -/
  stripLineEnds : Bool := true
  /-- Strip all blanks at both ends instead. -/
  stripBlanks : Bool := false
  /-- End the text with a line feed. -/
  endLastLine : Bool := true
  /-- The distance of tab stops; tabs are kept if it is not positive. -/
  tabWidth : Int := 0
deriving DecidableEq, Repr

/-- What can go wrong when a text is highlighted. -/
inductive HighlightError where
  | tabsTooWide
  | unknownCategory (e : UnknownCategory)
deriving DecidableEq, Repr

/-- The wording of an error. -/
def HighlightError.message : HighlightError → Text
  | .tabsTooWide => "Python int too large to convert to C int"
  | .unknownCategory e => e.message

namespace Preparation

/-- The widest tab stops there can be: the number has to fit into 32 bits. -/
def maxTabWidth : Int := 2147483647

/-- The text without a byte order mark in front. -/
def dropMark : Text → Text
  | '\ufeff' :: s => s
  | s => s

/-- The text without what is to be stripped at its ends. -/
def strip (p : Preparation) (s : Text) : Text :=
  if p.stripBlanks then s.trim Unicode.isBlank
  else if p.stripLineEnds then s.trim (· == '\n')
  else s

/-- The text, ended by a line feed if that is asked for. -/
def finish (p : Preparation) (s : Text) : Text :=
  if p.endLastLine && s.getLast? != some '\n' then s.endLine else s

/-- The prepared text. -/
def apply (p : Preparation) (s : Text) : Except HighlightError Text :=
  let s := p.strip (dropMark s).unifyLineEnds
  if p.tabWidth ≤ 0 then .ok (p.finish s)
  else if p.tabWidth ≤ maxTabWidth then .ok (p.finish (s.expandTabs p.tabWidth.toNat))
  else .error .tabsTooWide

end Preparation

/-- The tokens of a prepared text. -/
def RuleTable.highlight (table : RuleTable) (p : Preparation) (text : Text) :
    Except HighlightError (List Token) := do
  let text ← p.apply text
  (table.tokens text).mapError .unknownCategory

end MlogHighlight
