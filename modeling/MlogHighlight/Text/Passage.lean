import MlogHighlight.Text.Basic

/-!
# Spans and passages

A span is a range of positions of a text, a passage a piece of it together with its place.
-/

namespace MlogHighlight

/-- The positions from `start` up to, but without, `stop`. -/
structure Span where
  start : Nat
  stop : Nat
deriving DecidableEq, Repr

namespace Span

/-- The number of positions in a span. -/
def length (s : Span) : Nat := s.stop - s.start

/-- Do two non-empty spans share a position? -/
def overlaps (a b : Span) : Bool := a.start < b.stop && b.start < a.stop

end Span

/-- A piece of a text and the position of its first character. -/
structure Passage where
  start : Nat
  text : Text
deriving DecidableEq, Repr

namespace Passage

/-- The position just after the passage. -/
def stop (p : Passage) : Nat := p.start + p.text.length

/-- The positions of the passage. -/
def span (p : Passage) : Span := ⟨p.start, p.stop⟩

end Passage

namespace Text

/-- The maximal runs of characters that satisfy `p`, in a text that starts at position `pos`. -/
def runsFrom (p : Char → Bool) : Nat → Text → List Passage
  | _, [] => []
  | pos, c :: s =>
    let later := runsFrom p (pos + 1) s
    if p c then
      match later with
      | run :: rest =>
        if run.start = pos + 1 then ⟨pos, c :: run.text⟩ :: rest else ⟨pos, [c]⟩ :: later
      | [] => [⟨pos, [c]⟩]
    else later

/-- The maximal runs of characters that satisfy `p`. -/
def runs (p : Char → Bool) (s : Text) : List Passage := runsFrom p 0 s

/-- The lines of a text that starts at position `pos`. -/
def linesFrom : Nat → Text → List Passage
  | _, [] => []
  | pos, c :: s =>
    if c = '\n' then ⟨pos, [c]⟩ :: linesFrom (pos + 1) s
    else match linesFrom (pos + 1) s with
      | [] => [⟨pos, [c]⟩]
      | line :: rest => ⟨pos, c :: line.text⟩ :: rest

/-- The lines of a text, each with its line end; only a line feed ends a line. -/
def lines (s : Text) : List Passage := linesFrom 0 s

/-- The lines of a text join up to the text. -/
theorem flatMap_text_linesFrom (pos : Nat) (s : Text) : (linesFrom pos s).flatMap (·.text) = s := by
  induction s generalizing pos with
  | nil => rfl
  | cons c s ih =>
    have hs := ih (pos + 1)
    simp only [linesFrom]
    split
    · simp [hs]
    · split <;> simp_all

theorem flatMap_text_lines (s : Text) : (lines s).flatMap (·.text) = s := flatMap_text_linesFrom 0 s

end Text

end MlogHighlight
