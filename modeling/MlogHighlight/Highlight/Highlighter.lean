import MlogHighlight.Highlight.Setting
import MlogHighlight.Vocabulary.Load

/-!
# Highlighters

A highlighter is a rule table together with the way texts are prepared for it. It is set up from
settings, which may name the file of a vocabulary; a table that is given wins over that.
-/

namespace MlogHighlight

/-- A table and the preparation of texts. -/
structure Highlighter where
  table : RuleTable
  preparation : Preparation
deriving DecidableEq, Repr

namespace Highlighter

/-- Why a highlighter cannot be set up. -/
inductive SetupError where
  | badOption (e : OptionError)
  | vocabulary (e : Vocabulary.LoadError)
  | transform (e : UnknownTransform)

/-- The wording of the error. -/
def SetupError.message : SetupError → Text
  | .badOption e => e.message
  | .vocabulary e => e.message
  | .transform e => e.message

/-- The table for the vocabulary that settings name, or for the packaged one. -/
def tableOfSettings (fs : FileSystem) (settings : List (Text × Setting)) :
    Except SetupError RuleTable := do
  let path := (settings.lookup "vocab".toList).bind Setting.toText?
  let sets ← (Vocabulary.loadOrPackaged fs path).mapError .vocabulary
  (RuleTable.build sets).mapError .transform

/-- Sets up a highlighter; the options of the preparation are checked first. -/
def ofSettings (fs : FileSystem) (given : Option RuleTable) (settings : List (Text × Setting)) :
    Except SetupError Highlighter := do
  let preparation ← (Preparation.ofSettings settings).mapError .badOption
  let table ← given.elim (tableOfSettings fs settings) pure
  return { table, preparation }

/-- The tokens of a text that is prepared first. -/
def tokens (h : Highlighter) (text : Text) : Except HighlightError (List Token) :=
  h.table.highlight h.preparation text

/-- The tokens of a text as it is. -/
def rawTokens (h : Highlighter) (text : Text) : Except HighlightError (List Token) :=
  (h.table.tokens text).mapError .unknownCategory

end Highlighter

end MlogHighlight
