import MlogHighlight.Text.Basic
import MlogHighlight.Unicode.Printable

/-!
# Quoted texts

A text as it is shown in listings and messages: between quotes, on one line, in printable
characters only. Single quotes are used unless the text holds single quotes and no double ones.
The backslash, the quote in use and all unprintable characters are escaped.
-/

namespace MlogHighlight.Text

/-- A number in hexadecimal, with at least `width` digits. -/
def hex (width n : Nat) : Text :=
  let digits := Nat.toDigits 16 n
  List.replicate (width - digits.length) '0' ++ digits

/-- The form of a character between two `quote`s. -/
def quoteChar (quote c : Char) : Text :=
  if c = '\\' ∨ c = quote then ['\\', c]
  else if c = '\n' then "\\n"
  else if c = '\r' then "\\r"
  else if c = '\t' then "\\t"
  else if Unicode.isPrintable c then [c]
  else if c.toNat < 0x100 then "\\x" ++ hex 2 c.toNat
  else if c.toNat < 0x10000 then "\\u" ++ hex 4 c.toNat
  else "\\U" ++ hex 8 c.toNat

/-- The quote a text is put between. -/
def quoteMark (s : Text) : Char := if '\'' ∈ s ∧ '"' ∉ s then '"' else '\''

/-- The quoted form of a text. -/
def quoted (s : Text) : Text :=
  let mark := quoteMark s
  mark :: s.flatMap (quoteChar mark) ++ [mark]

end MlogHighlight.Text
