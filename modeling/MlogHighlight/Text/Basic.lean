/-!
# Text

Source text, words and all that is printed are lists of characters, so a position in a text is a
number of characters. A string literal may stand where a text is expected.
-/

namespace MlogHighlight

/-- A text, one character per code point. -/
abbrev Text := List Char

instance : Coe String Text := ⟨String.toList⟩

namespace Text

/-- A natural number in decimal. -/
def ofNat (n : Nat) : Text := Nat.toDigits 10 n

/-- An integer in decimal, with a minus sign in front of a negative one. -/
def ofInt : Int → Text
  | .ofNat n => ofNat n
  | .negSucc n => '-' :: ofNat (n + 1)

/-- Several texts with `separator` between each two of them. -/
def join (separator : Text) : List Text → Text
  | [] => []
  | [s] => s
  | s :: rest => s ++ separator ++ join separator rest

/-- The pieces between the occurrences of `separator`, empty ones included. -/
def split (separator : Char) : Text → List Text
  | [] => [[]]
  | c :: s =>
    if c = separator then [] :: split separator s
    else match split separator s with
      | [] => [[c]]
      | piece :: rest => (c :: piece) :: rest

/-- Does the first text come before the second, or are they the same? Characters are compared by
code point, and a text comes before its continuations. -/
def precedes : Text → Text → Bool
  | [], _ => true
  | _ :: _, [] => false
  | a :: s, b :: t => a < b || (a == b && precedes s t)

/-- The text without the characters at its end that satisfy `p`. -/
def trimEnd (p : Char → Bool) (s : Text) : Text := (s.reverse.dropWhile p).reverse

/-- The text without the characters at either end that satisfy `p`. -/
def trim (p : Char → Bool) (s : Text) : Text := trimEnd p (s.dropWhile p)

/-- The text, padded with spaces to at least `width` characters. -/
def padTo (width : Nat) (s : Text) : Text := s ++ List.replicate (width - s.length) ' '

/-- The text and a line end. -/
def endLine (s : Text) : Text := s ++ ['\n']

/-- A position counted from the end when negative, moved into the text. -/
def clamp (length : Nat) (i : Int) : Nat :=
  if i < 0 then (length + i).toNat else min i.toNat length

/-- The characters from `start` up to `stop`; negative positions count from the end, and what lies
outside the text is left out. -/
def slice (s : Text) (start stop : Int) : Text :=
  let first := clamp s.length start
  (s.drop first).take (clamp s.length stop - first)

end Text

end MlogHighlight
