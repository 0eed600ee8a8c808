import MlogHighlight.Naming
import MlogHighlight.Unicode.WhiteSpace

/-!
# The elements of a vocabulary text

A declaration is written `NAME : CATEGORY [TRANSFORM] { WORD ... }`. This module says what the
single elements look like and what may stand between them. A reader of an element takes the text
that begins with it and gives back what it read and the rest; it always takes as much as it can.
-/

namespace MlogHighlight.Vocabulary

/-- The characters of a gap, comments aside. -/
def isGapChar (c : Char) : Bool := c == ' ' || c == '\t' || c == '\n' || c == '\r'

/-- Skips a gap, where the text may begin inside a comment. -/
def skipGapFrom (inComment : Bool) : Text → Text
  | [] => []
  | c :: s =>
    if inComment then skipGapFrom (c != '\n') s
    else if isGapChar c then skipGapFrom false s
    else if c = '#' then skipGapFrom true s
    else c :: s

/-- Skips the white space and the comments between two elements. -/
def skipGap (s : Text) : Text := skipGapFrom false s

/-- What the name of a set may begin with: an ASCII letter or the underscore. -/
def isNameHead (c : Char) : Bool := c.isAlpha || c == '_'

/-- What the name of a set may go on with. -/
def isNameBody (c : Char) : Bool := c.isAlphanum || c == '_' || c == '-'

/-- Reads the name of a set. -/
def name? : Text → Option (Text × Text)
  | [] => none
  | c :: s =>
    if isNameHead c then some (c :: s.takeWhile isNameBody, s.dropWhile isNameBody) else none

/-- Reads a punctuation mark. -/
def mark? (mark : Char) : Text → Option Text
  | [] => none
  | c :: s => if c = mark then some s else none

/-- The characters of a category. -/
def isCategoryChar (c : Char) : Bool := c.isLower || c == '-'

/-- May a transform end in front of this text? -/
def endsTransform : Text → Bool
  | [] => true
  | c :: _ => !Word.isHead c

/-- Reads the name of a transform. -/
def transform? (s : Text) : Option (Naming.Transform × Text) :=
  Naming.Transform.all.findSome? fun t =>
    if t.name.isPrefixOf s && endsTransform (s.drop t.name.length) then
      some (t, s.drop t.name.length)
    else none

/-- The characters of a bare word: all but blanks, braces, the double quote and `#`. -/
def isBareChar (c : Char) : Bool := !Unicode.isBlank c && c ∉ ['\x7b', '\x7d', '"', '#']

/-- The value of a hexadecimal digit. -/
def hexValue? (c : Char) : Option Nat :=
  if c.isDigit then some (c.toNat - '0'.toNat)
  else if 'a' ≤ c && c ≤ 'f' then some (c.toNat - 'a'.toNat + 10)
  else if 'A' ≤ c && c ≤ 'F' then some (c.toNat - 'A'.toNat + 10)
  else none

/-- Is the character an octal digit? -/
def isOctal (c : Char) : Bool := '0' ≤ c && c ≤ '7'

/-- The escape that follows a backslash: what it stands for and how many characters it has. `t`,
`n`, `f`, `r` and `0` stand for control characters; an octal digit and a `3` stand for themselves;
behind `x`, a hexadecimal digit and a `2` are the number of a character, and so are a digit and a
`4` behind `u`. -/
def escape? : Text → Option (Text × Nat)
  | 't' :: _ => some (['\t'], 1)
  | 'n' :: _ => some (['\n'], 1)
  | 'f' :: _ => some (['\x0c'], 1)
  | 'r' :: _ => some (['\r'], 1)
  | 'x' :: d :: '2' :: _ => (hexValue? d).map fun n => ([Char.ofNat (n * 16 + 2)], 3)
  | 'u' :: d :: '4' :: _ => (hexValue? d).map fun n => ([Char.ofNat (n * 16 + 4)], 3)
  | '0' :: '3' :: _ => some (['0', '3'], 2)
  | '0' :: _ => some (['\x00'], 1)
  | d :: '3' :: _ => if isOctal d then some ([d, '3'], 2) else none
  | _ => none

/-- Decodes the escapes of a text whose first `skip` characters are part of one already decoded. -/
def unescapeFrom (skip : Nat) : Text → Text
  | [] => []
  | c :: s =>
    if skip ≠ 0 then unescapeFrom (skip - 1) s
    else if c ≠ '\\' then c :: unescapeFrom 0 s
    else match escape? s with
      | some (value, length) => value ++ unescapeFrom length s
      | none => c :: unescapeFrom 0 s

/-- Decodes the escapes of a quoted word. A backslash without an escape stands for itself. -/
def unescape (s : Text) : Text := unescapeFrom 0 s

/-- May the character stand in a quoted word? -/
def isQuotedChar (c : Char) : Bool := c != '"' && c != '\n' && c != '\r'

/-- Reads a word, bare or between double quotes. -/
def word? (s : Text) : Option (Text × Text) :=
  match s with
  | '"' :: body =>
    (mark? '"' (body.dropWhile isQuotedChar)).map fun rest =>
      (unescape (body.takeWhile isQuotedChar), rest)
  | _ =>
    match s.takeWhile isBareChar with
    | [] => none
    | word => some (word, s.dropWhile isBareChar)

end MlogHighlight.Vocabulary
