import MlogHighlight.Text.Basic
import MlogHighlight.Unicode.Digit
import MlogHighlight.Unicode.WhiteSpace

/-!
# Reading integers

An integer may have a sign, digits of any script, single underscores between digits, and white
space around it. More than 4300 digits are refused.
-/

namespace MlogHighlight.Text

/-- The values of a run of digits; an underscore may stand between two digits. -/
def digitValues? : Text → Option (List Nat)
  | [] => none
  | [c] => (Unicode.digitValue? c).map ([·])
  | c :: '_' :: s => do return (← Unicode.digitValue? c) :: (← digitValues? s)
  | c :: s => do return (← Unicode.digitValue? c) :: (← digitValues? s)

/-- The most digits an integer may have. -/
def maxDigits : Nat := 4300

/-- A number without sign or white space. -/
def readNat? (s : Text) : Option Nat := do
  let digits ← digitValues? s
  guard (digits.length ≤ maxDigits)
  return digits.foldl (fun n digit => 10 * n + digit) 0

/-- The integer a text denotes. -/
def readInt? (s : Text) : Option Int :=
  match trim Unicode.isWhiteSpace s with
  | '-' :: digits => (readNat? digits).map fun n => -n
  | '+' :: digits => (readNat? digits).map fun n => n
  | digits => (readNat? digits).map fun n => n

end MlogHighlight.Text
