import MlogHighlight.Proofs.Locality

/-!
# Pieces by position

The pieces of a line are cut off its front one after the other. They can as well be taken from the
whole text: each annotation gives the characters between its positions, and a position goes along
behind the last annotation, so that what lies between two annotations is taken as well. Main facts:

* `Piece.cut_eq_slices`: both give the same pieces of a line;
* `RuleTable.pieces_eq_slices`: the pieces of a text, from the annotations of its lines.
-/

namespace MlogHighlight

open Text

namespace Piece

/-- The plain piece from a position up to another one, none if there is nothing between them. -/
def between (text : Text) (pos stop : Int) : List Piece :=
  if pos < stop then [⟨pos.toNat, none, text.slice pos stop⟩] else []

/-- The pieces of a text from a position up to another one, with the annotations between them. -/
def slices (text : Text) (pos stop : Int) : List Annotation → List Piece
  | [] => between text pos stop
  | a :: later =>
    between text pos a.start ++
      ⟨a.start.toNat, some a.category, text.slice a.start a.stop⟩ :: slices text a.stop stop later

/-- The plain piece of a line between two of its positions. -/
theorem plain_eq_between (front back : Text) {word : Text} {i j : Nat} (hij : i ≤ j)
    (hj : j ≤ word.length) : plain (front.length + i) ((word.drop i).take (j - i)) =
      between (front ++ word ++ back) (front.length + i : Nat) (front.length + j : Nat) := by
  rw [between, slice_line front back hij hj, Int.toNat_natCast]
  by_cases hlt : i < j
  · have hne : (word.drop i).take (j - i) ≠ [] := by
      apply List.ne_nil_of_length_pos
      rw [List.length_take, List.length_drop]
      omega
    rw [plain, if_neg (by simpa using hne), if_pos (by omega)]
  · rw [Nat.sub_eq_zero_of_le (Nat.le_of_not_lt hlt), List.take_zero, if_neg (by omega)]
    rfl

/-- What is left of a line is cut into the pieces that its positions give. -/
theorem cut_eq_slices (front back : Text) {word : Text} {pos : Nat} {marks : List Mark}
    (hpos : pos ≤ word.length) (h : Mark.Within pos (word.drop pos).length marks) :
    cut front.length pos (word.drop pos) marks =
      slices (front ++ word ++ back) (front.length + pos : Nat) (front.length + word.length : Nat)
        (marks.map (·.annotate front.length)) := by
  induction marks generalizing pos with
  | nil =>
    have hplain := plain_eq_between front back hpos (Nat.le_refl _)
    rwa [← List.length_drop, List.take_length] at hplain
  | cons m marks ih =>
    have hstart := h.start_le m (List.mem_cons_self ..)
    have hstop := h.stop_le m (List.mem_cons_self ..)
    have hm := h.separate.nonempty m (List.mem_cons_self ..)
    have hrest := within_tail h
    rw [List.length_drop] at hstop
    -- both what is left in front of the mark and what is left behind it begin at a position of the line
    have hbehind : ((word.drop pos).drop (m.span.start - pos)).drop m.span.length =
        word.drop m.span.stop := by
      rw [List.drop_drop, List.drop_drop, Span.length]
      congr 1
      omega
    rw [hbehind] at hrest
    have hword : (word.drop pos).drop (m.span.start - pos) = word.drop m.span.start := by
      rw [List.drop_drop, Nat.add_sub_cancel' hstart]
    rw [cut, hbehind, hword, plain_eq_between front back hstart (by omega), ih (by omega) hrest,
      List.map_cons, slices, Mark.slice_annotate front back hm (by omega)]
    simp only [Mark.annotate_natCast, Int.toNat_natCast]

end Piece

namespace RuleTable

/-- The pieces of a text are those that the positions of its annotations give, line by line. -/
theorem pieces_eq_slices (table : RuleTable) (text : Text) :
    table.pieces text = (table.annotateLines text).flatMap fun l =>
      Piece.slices text l.line.start l.line.stop l.annotations := by
  rw [pieces_eq, annotateLines_eq, List.flatMap_map]
  apply List.flatMap_congr
  intro line hline
  -- the marks lie inside the line, also with its line end
  have hwithin := table.within_marks line.text
  rcases exists_append_of_mem_lines hline with ⟨front, back, htext, hstart⟩
  have hcut := Piece.cut_eq_slices front back (Nat.zero_le _) hwithin
  rw [← htext, ← hstart] at hcut
  exact hcut

end RuleTable

end MlogHighlight
