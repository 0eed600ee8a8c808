import Mathlib.Data.List.Pairwise
import MlogHighlight.Text.Passage

/-!
# Spans

How two spans can lie to each other. Main fact:

* `Span.meets_iff`: spans that are not empty overlap if they have a position in common.
-/

namespace MlogHighlight.Span

variable {a b : Span}

/-- The position is one of the span. -/
def Has (a : Span) (i : Nat) : Prop := a.start ≤ i ∧ i < a.stop

/-- The spans have a position in common. -/
def Meets (a b : Span) : Prop := ∃ i, a.Has i ∧ b.Has i

/-- One span ends before the other one starts. -/
def Apart (a b : Span) : Prop := a.stop ≤ b.start ∨ b.stop ≤ a.start

/-- The first span lies inside the second one. -/
def Inside (a b : Span) : Prop := b.start ≤ a.start ∧ a.stop ≤ b.stop

/-- The characters of a text that are in the span. -/
def content (a : Span) (s : Text) : Text := (s.take a.stop).drop a.start

theorem Inside.refl (a : Span) : a.Inside a := ⟨Nat.le_refl _, Nat.le_refl _⟩

theorem Apart.symm (h : a.Apart b) : b.Apart a := Or.symm h

instance : Std.Symm Apart := ⟨fun _ _ h => h.symm⟩

/-- Two of several spans in order are the same span, or apart. -/
theorem eq_or_apart {spans : List Span} (h : spans.Pairwise fun a b => a.stop ≤ b.start)
    (ha : a ∈ spans) (hb : b ∈ spans) : a = b ∨ a.Apart b := by
  have hapart : spans.Pairwise Apart := h.imp Or.inl
  by_cases hab : a = b
  · exact Or.inl hab
  · exact Or.inr (hapart.forall ha hb hab)

theorem overlaps_eq_false : a.overlaps b = false ↔ a.Apart b := by
  unfold overlaps Apart
  simp only [Bool.and_eq_false_iff, decide_eq_false_iff_not, Nat.not_lt]
  exact Or.comm

/-- Spans that are not empty overlap if they have a position in common. -/
theorem meets_iff (ha : a.start < a.stop) (hb : b.start < b.stop) :
    a.Meets b ↔ a.overlaps b = true := by
  unfold overlaps
  simp only [Bool.and_eq_true, decide_eq_true_eq]
  constructor
  · intro h
    rcases h with ⟨i, ⟨hai, hia⟩, hbi, hib⟩
    omega
  · intro h
    rcases h with ⟨hab, hba⟩
    refine ⟨max a.start b.start, ⟨?_, ?_⟩, ?_, ?_⟩ <;> omega

theorem not_meets_iff (ha : a.start < a.stop) (hb : b.start < b.stop) :
    ¬ a.Meets b ↔ a.Apart b := by
  rw [meets_iff ha hb, Bool.not_eq_true, overlaps_eq_false]

/-- A span that is not empty does not lie inside one that it is apart from. -/
theorem not_apart_of_inside (ha : a.start < a.stop) (h : a.Inside b) : ¬ a.Apart b := by
  rcases h with ⟨hstart, hstop⟩
  rintro (h | h) <;> omega

/-- A passage is what its text has at its positions. -/
theorem content_span {s before after : Text} {p : Passage} (hs : s = before ++ p.text ++ after)
    (hstart : p.start = before.length) : p.span.content s = p.text := by
  have hstop : p.stop = (before ++ p.text).length := by
    rw [Passage.stop, hstart, List.length_append]
  rw [content, Passage.span, hs, hstop, hstart, List.take_left, List.drop_left]

/-- A span that is not empty and lies inside the text has characters. -/
theorem content_ne_nil {s : Text} (h : a.start < a.stop ∧ a.stop ≤ s.length) : a.content s ≠ [] := by
  apply List.ne_nil_of_length_pos
  simp only [content, List.length_drop, List.length_take]
  omega

end MlogHighlight.Span
