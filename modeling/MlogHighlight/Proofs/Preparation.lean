import Mathlib.Data.List.DropRight
import MlogHighlight.Highlight.Preparation
import MlogHighlight.Proofs.Tiling

/-!
# What the preparation of a text changes

A text that has line feeds for line ends already, and no byte order mark, is only stripped of the
line feeds at both ends, and ended by one. Main facts:

* `Text.eq_trim`: what is stripped of a text;
* `Preparation.apply_default`: the prepared text;
* `RuleTable.highlight_eq`: the tokens of a text are those of the prepared text.
-/

namespace MlogHighlight

namespace Text

/-! ## Stripping -/

theorem trimEnd_concat_of_pos {p : Char → Bool} {c : Char} (hc : p c = true) (s : Text) :
    (s ++ [c]).trimEnd p = s.trimEnd p := List.rdropWhile_concat_pos p s c hc

/-- What is stripped at the end makes no difference to what is left. -/
theorem trimEnd_append_of_all {p : Char → Bool} {back : Text} (hback : back.all p = true) (s : Text) :
    (s ++ back).trimEnd p = s.trimEnd p := by
  have hall : ∀ c ∈ back.reverse, p c = true := by
    intro c hc
    exact List.all_eq_true.mp hback c (List.mem_reverse.mp hc)
  rw [trimEnd, List.reverse_append, List.dropWhile_append_of_pos hall]
  rfl

/-- At the end, nothing is stripped beyond a character that is not to be stripped. -/
theorem trimEnd_append_of_stops {p : Char → Bool} {s : Text} (h : Stops p s.reverse)
    (back : Text) : (s ++ back).trimEnd p = s ++ back.trimEnd p := by
  rw [trimEnd, List.reverse_append, dropWhile_append_of_stops h, List.reverse_append,
    List.reverse_reverse, trimEnd]

/-- What is not to be stripped at either end keeps what is left of the text around it. -/
theorem trim_append_of_stops {p : Char → Bool} {s : Text} (hne : s ≠ []) (hhead : Stops p s)
    (hlast : Stops p s.reverse) (front back : Text) :
    (front ++ (s ++ back)).trim p = front.dropWhile p ++ (s ++ back.trimEnd p) := by
  have hstops : Stops p (front.dropWhile p ++ s).reverse := by
    rwa [List.reverse_append, stops_append_of_ne_nil (by simpa using hne)]
  rw [trim, dropWhile_append_of_stops ((stops_append_of_ne_nil hne back).mpr hhead),
    ← List.append_assoc, trimEnd_append_of_stops hstops, List.append_assoc]

theorem all_trimEnd {p q : Char → Bool} {s : Text} (h : s.all q = true) :
    (s.trimEnd p).all q = true := by
  rw [List.all_eq_true] at h ⊢
  intro c hc
  exact h c ((List.rdropWhile_prefix p s).subset hc)

/-- The end of a stripped text is not to be stripped. -/
theorem getLast?_trimEnd {p : Char → Bool} {s : Text} {c : Char}
    (h : (s.trimEnd p).getLast? = some c) : p c = false := by
  have hne : s.trimEnd p ≠ [] := by
    intro hnil
    simp [hnil] at h
  have hlast : ¬ p ((s.trimEnd p).getLast hne) = true := List.rdropWhile_last_not p s hne
  rw [List.getLast?_eq_getLast_of_ne_nil hne, Option.some.injEq] at h
  rw [h] at hlast
  simpa using hlast

theorem trimEnd_of_stops {p : Char → Bool} {s : Text} (h : Stops p s.reverse) : s.trimEnd p = s := by
  rw [trimEnd, dropWhile_of_stops h, List.reverse_reverse]

theorem stops_reverse_trimEnd (p : Char → Bool) (s : Text) : Stops p (s.trimEnd p).reverse := by
  rw [trimEnd, List.reverse_reverse]
  exact stops_dropWhile p s.reverse

/-- What is stripped at the end is to be stripped. -/
theorem eq_trimEnd (p : Char → Bool) (s : Text) :
    ∃ back, s = s.trimEnd p ++ back ∧ back.all p = true := by
  refine ⟨s.rtakeWhile p, List.rdropWhile_append_rtakeWhile.symm, ?_⟩
  rw [List.all_eq_true]
  intro c hc
  exact List.mem_rtakeWhile_imp hc

/-- A text is what is left of it between what is stripped at both ends. -/
theorem eq_trim (p : Char → Bool) (s : Text) :
    ∃ back, s = s.takeWhile p ++ s.trim p ++ back ∧ back.all p = true := by
  rcases eq_trimEnd p (s.dropWhile p) with ⟨back, hdrop, hback⟩
  refine ⟨back, ?_, hback⟩
  rw [List.append_assoc, trim, ← hdrop, List.takeWhile_append_dropWhile]

theorem eq_replicate_lineFeed {s : Text} (h : s.all (· == '\n') = true) :
    s = List.replicate s.length '\n' := by
  rw [List.eq_replicate_iff]
  exact ⟨rfl, by simpa using h⟩

/-! ## Line ends -/

theorem unifyLineEnds_of_notMem {s : Text} (h : '\r' ∉ s) : s.unifyLineEnds = s := by
  fun_induction unifyLineEnds s with
  | case1 => rfl
  | case2 s ih => simp at h
  | case3 s hnext ih => simp at h
  | case4 c s hpair hreturn ih =>
    rw [List.mem_cons, not_or] at h
    rw [ih h.2]

end Text

namespace Preparation

theorem dropMark_of_head? {s : Text} (h : s.head? ≠ some '\ufeff') : dropMark s = s := by
  unfold dropMark
  split
  · simp at h
  · rfl

/-- A text with unified line ends and no byte order mark is stripped of line feeds and ended. -/
theorem apply_default {s : Text} (hreturn : '\r' ∉ s) (hmark : s.head? ≠ some '\ufeff') :
    Preparation.apply {} s = .ok (s.trim (· == '\n') ++ ['\n']) := by
  have hlast : (s.trim (· == '\n')).getLast? ≠ some '\n' := by
    intro hfeed
    have hstripped := Text.getLast?_trimEnd hfeed
    simp at hstripped
  have hfinish : Preparation.finish {} (s.trim (· == '\n')) = s.trim (· == '\n') ++ ['\n'] := by
    unfold finish
    rw [if_pos (by simpa using hlast)]
    rfl
  have hstrip : Preparation.strip {} s = s.trim (· == '\n') := rfl
  unfold Preparation.apply
  simp only [dropMark_of_head? hmark, Text.unifyLineEnds_of_notMem hreturn, hstrip, hfinish]
  rfl

end Preparation

/-- The tokens of a text are those of the pieces of the prepared text. -/
theorem RuleTable.highlight_eq {table : RuleTable} (known : table.Known) {p : Preparation}
    {text prepared : Text} (h : p.apply text = .ok prepared) :
    table.highlight p text = .ok ((table.pieces prepared).map Piece.knownToken) := by
  unfold highlight
  rw [h]
  change (table.tokens prepared).mapError _ = _
  rw [tokens_eq known]
  rfl

end MlogHighlight
