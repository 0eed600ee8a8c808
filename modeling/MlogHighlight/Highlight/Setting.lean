import MlogHighlight.Highlight.Preparation
import MlogHighlight.Text.Integer
import MlogHighlight.Text.Quoted
import MlogHighlight.Unicode.Lowercase

/-!
# Settings

The options of a preparation may be given by name, with values of any type: a switch may be given
as a truth value, a number or a word, and a number as a number or as text.
-/

namespace MlogHighlight

/-- The value given for an option. -/
inductive Setting where
  | null
  | bool (value : Bool)
  | int (value : Int)
  | text (value : Text)
  | list (values : List Setting)
  | dict (entries : List (Text × Setting))
deriving Inhabited

namespace Setting

mutual

/-- A value as it is shown in messages. -/
def describe : Setting → Text
  | .null => "None"
  | .bool true => "True"
  | .bool false => "False"
  | .int value => Text.ofInt value
  | .text value => value.quoted
  | .list values => "[" ++ Text.join ", " (describeAll values) ++ "]"
  | .dict entries => "\x7b" ++ Text.join ", " (describeEntries entries) ++ "\x7d"

/-- Values as they are shown in messages. -/
def describeAll : List Setting → List Text
  | [] => []
  | value :: values => value.describe :: describeAll values

/-- Entries of a dictionary as they are shown in messages. -/
def describeEntries : List (Text × Setting) → List Text
  | [] => []
  | (key, value) :: entries => (key.quoted ++ ": " ++ value.describe) :: describeEntries entries

end

/-- What is wrong with the value of an option: its type, or the value itself. -/
inductive Fault where
  | type
  | value
deriving DecidableEq, Repr

/-- Words that turn a switch on. -/
def onWords : List Text := ["1", "yes", "true", "on"]

/-- Words that turn a switch off. -/
def offWords : List Text := ["0", "no", "false", "off"]

/-- The value of a switch; words count in capital letters too. -/
def toSwitch : Setting → Except Fault Bool
  | .bool value => .ok value
  | .int value => .ok (value != 0)
  | .text value =>
    if onWords.contains (Unicode.lower value) then .ok true
    else if offWords.contains (Unicode.lower value) then .ok false
    else .error .value
  | _ => .error .type

/-- The value of a number. -/
def toNumber : Setting → Except Fault Int
  | .bool value => .ok (if value then 1 else 0)
  | .int value => .ok value
  | .text value =>
    match value.readInt? with
    | some n => .ok n
    | none => .error .value
  | _ => .error .type

/-- The text of a setting, if it is one. -/
def toText? : Setting → Option Text
  | .text value => some value
  | _ => none

end Setting

/-- An option has a value it cannot have. -/
structure OptionError where
  option : Text
  given : Setting
  fault : Setting.Fault
  hint : Text

/-- The wording of the error. -/
def OptionError.message (e : OptionError) : Text :=
  let what : Text := match e.fault with
    | .type => "type"
    | .value => "value"
  "Invalid " ++ what ++ " " ++ e.given.describe ++ " for option " ++ e.option ++ "; " ++ e.hint

namespace Preparation

/-- Reads an option, whose value is `default` when it is not given. -/
def readOption {α : Type} (read : Setting → Except Setting.Fault α) (hint : Text)
    (settings : List (Text × Setting)) (option : Text) (default : α) : Except OptionError α :=
  match settings.lookup option with
  | none => .ok default
  | some given => (read given).mapError fun fault => ⟨option, given, fault, hint⟩

/-- Reads a switch. -/
def readSwitch : List (Text × Setting) → Text → Bool → Except OptionError Bool :=
  readOption Setting.toSwitch "use 1/0, yes/no, true/false, on/off"

/-- Reads a number. -/
def readNumber : List (Text × Setting) → Text → Int → Except OptionError Int :=
  readOption Setting.toNumber "you must give an integer value"

/-- The preparation that settings ask for; the first option with a bad value is an error. -/
def ofSettings (settings : List (Text × Setting)) : Except OptionError Preparation := do
  let stripLineEnds ← readSwitch settings "stripnl" true
  let stripBlanks ← readSwitch settings "stripall" false
  let endLastLine ← readSwitch settings "ensurenl" true
  let tabWidth ← readNumber settings "tabsize" 0
  return { stripLineEnds, stripBlanks, endLastLine, tabWidth }

end Preparation

end MlogHighlight
