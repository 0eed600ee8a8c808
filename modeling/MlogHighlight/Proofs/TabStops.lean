import Mathlib.Data.List.Basic
import MlogHighlight.Text.Layout

/-!
# Tab stops

How far a tab reaches depends on the column it stands at, and nothing else of what is in front of
it. Main facts:

* `columnAfterChar_tab_iff`: a tab reaches the next column that is a multiple of the width;
* `expandTabsFrom_tab`, `expandTabsFrom_lineEnd`, `expandTabsFrom_char`: the expansion, character by
  character;
* `length_expandTabsFrom`: the columns of a line are those of its expansion;
* `expandTabsFrom_append`: the tabs of a text and of what follows it;
* `expandTabsFrom_of_notMem`: a text without tabs is as before;
* `notMem_expandTabsFrom`: the expansion adds spaces only.
-/

namespace MlogHighlight.Text

variable {width column : Nat}

/-- The column behind a character at a column. -/
def columnAfterChar (width column : Nat) (c : Char) : Nat :=
  if c = '\t' then column + (width - column % width)
  else if c = '\n' ∨ c = '\r' then 0
  else column + 1

/-- The column behind a text that begins at a column. -/
def columnAfter (width column : Nat) (s : Text) : Nat := s.foldl (columnAfterChar width) column

/-- A character at a column, a tab as spaces. -/
def expandChar (width column : Nat) (c : Char) : Text :=
  if c = '\t' then List.replicate (width - column % width) ' ' else [c]

theorem expandTabsFrom_cons (c : Char) (s : Text) :
    expandTabsFrom width column (c :: s) =
      expandChar width column c ++ expandTabsFrom width (columnAfterChar width column c) s := by
  unfold expandChar columnAfterChar
  by_cases hc : c = '\t'
  · simp [expandTabsFrom, hc]
  · simp [expandTabsFrom, hc]

/-! ## Where a tab stop is -/

section

variable {stop : Nat} {c : Char} {s : Text}

/-- Multiples of the width that are less than the width apart are the same. -/
theorem eq_of_dvd {first second : Nat} (hfirst : width ∣ first) (hsecond : width ∣ second)
    (hle : first < second + width) (hge : second < first + width) : first = second := by
  have hbelow := Nat.eq_zero_of_dvd_of_lt (Nat.dvd_sub hfirst hsecond) (by omega)
  have habove := Nat.eq_zero_of_dvd_of_lt (Nat.dvd_sub hsecond hfirst) (by omega)
  omega

/-- The tab stop is the first multiple of the width behind the column. -/
theorem columnAfterChar_tab_iff (hwidth : 0 < width) : columnAfterChar width column '\t' = stop ↔
    width ∣ stop ∧ column < stop ∧ stop ≤ column + width := by
  have hmod : column % width < width := Nat.mod_lt _ hwidth
  have hnext : columnAfterChar width column '\t' = column + (width - column % width) := if_pos rfl
  have hdivides : width ∣ columnAfterChar width column '\t' := by
    have hcolumn := Nat.div_add_mod column width
    refine ⟨column / width + 1, ?_⟩
    rw [hnext, Nat.mul_succ]
    omega
  constructor
  · rintro rfl
    exact ⟨hdivides, by omega, by omega⟩
  · rintro ⟨hstop, hlt, hle⟩
    exact eq_of_dvd hdivides hstop (by omega) (by omega)

/-- A tab becomes the spaces up to the tab stop. -/
theorem expandTabsFrom_tab (hwidth : 0 < width) (hstop : width ∣ stop) (hlt : column < stop)
    (hle : stop ≤ column + width) (s : Text) : expandTabsFrom width column ('\t' :: s) =
      List.replicate (stop - column) ' ' ++ expandTabsFrom width stop s := by
  have hcolumn := (columnAfterChar_tab_iff hwidth).mpr ⟨hstop, hlt, hle⟩
  rw [expandTabsFrom_cons, hcolumn, expandChar, if_pos rfl]
  rw [columnAfterChar, if_pos rfl] at hcolumn
  rw [← hcolumn, Nat.add_sub_cancel_left]

/-- Behind a line end the columns count from zero again. -/
theorem expandTabsFrom_lineEnd (hc : c = '\n' ∨ c = '\r') (s : Text) :
    expandTabsFrom width column (c :: s) = c :: expandTabsFrom width 0 s := by
  rcases hc with rfl | rfl <;> rfl

/-- Every other character takes one column. -/
theorem expandTabsFrom_char (hc : c ∉ ['\t', '\n', '\r']) (s : Text) :
    expandTabsFrom width column (c :: s) = c :: expandTabsFrom width (column + 1) s := by
  simp only [List.mem_cons, List.not_mem_nil, or_false, not_or] at hc
  rw [expandTabsFrom, if_neg hc.1, if_neg (not_or.mpr hc.2)]

theorem length_expandChar (hc : c ∉ ['\n', '\r']) :
    column + (expandChar width column c).length = columnAfterChar width column c := by
  simp only [List.mem_cons, List.not_mem_nil, or_false] at hc
  unfold expandChar columnAfterChar
  rw [if_neg hc]
  split
  · rw [List.length_replicate]
  · rw [List.length_singleton]

/-- The column behind a text on one line is where the text ends with its tabs expanded. -/
theorem length_expandTabsFrom (h : ∀ c ∈ s, c ∉ ['\n', '\r']) :
    column + (expandTabsFrom width column s).length = columnAfter width column s := by
  induction s generalizing column with
  | nil => rfl
  | cons c s ih =>
    rcases List.forall_mem_cons.mp h with ⟨hc, hs⟩
    rw [expandTabsFrom_cons, List.length_append, ← Nat.add_assoc, length_expandChar hc, ih hs]
    rfl

end

/-- Between tab stops eight columns apart, also behind a line end. -/
example : expandTabs 8 "ab\tc\n\t1234567\t|" = "ab      c\n        1234567 |" := by
  decide

/-! ## Parts of texts -/

/-- The tabs of a text, and then those of what follows it from the column reached. -/
theorem expandTabsFrom_append (s t : Text) :
    expandTabsFrom width column (s ++ t) =
      expandTabsFrom width column s ++ expandTabsFrom width (columnAfter width column s) t := by
  induction s generalizing column with
  | nil => rfl
  | cons c s ih =>
    rw [List.cons_append, expandTabsFrom_cons, expandTabsFrom_cons, ih, List.append_assoc]
    rfl

theorem expandChar_of_ne {c : Char} (hc : c ≠ '\t') : expandChar width column c = [c] := if_neg hc

/-- A text without tabs is as before. -/
theorem expandTabsFrom_of_notMem {s : Text} (h : '\t' ∉ s) : expandTabsFrom width column s = s := by
  induction s generalizing column with
  | nil => rfl
  | cons c s ih =>
    rw [List.mem_cons, not_or] at h
    rw [expandTabsFrom_cons, expandChar_of_ne (Ne.symm h.1), ih h.2, List.singleton_append]

/-- A character that is no tab stays, in front of what follows it. -/
theorem expandTabsFrom_cons_of_ne {c : Char} (hc : c ≠ '\t') (s : Text) :
    expandTabsFrom width column (c :: s) =
      c :: expandTabsFrom width (columnAfterChar width column c) s := by
  rw [expandTabsFrom_cons, expandChar_of_ne hc, List.singleton_append]

/-- The expansion of tabs adds spaces only. -/
theorem notMem_expandTabsFrom {c : Char} {s : Text} (hspace : c ≠ ' ') (h : c ∉ s) :
    c ∉ expandTabsFrom width column s := by
  induction s generalizing column with
  | nil => simp [expandTabsFrom]
  | cons d s ih =>
    rw [List.mem_cons, not_or] at h
    rw [expandTabsFrom_cons, List.mem_append, not_or]
    refine ⟨?_, ih h.2⟩
    unfold expandChar
    split
    · intro hmem
      exact hspace (List.eq_of_mem_replicate hmem)
    · simpa using h.1

/-- Between tab stops that are apart, the expansion does not leave a text empty. -/
theorem expandTabsFrom_ne_nil (hwidth : 0 < width) {s : Text} (h : s ≠ []) :
    expandTabsFrom width column s ≠ [] := by
  cases s with
  | nil => exact absurd rfl h
  | cons c s =>
    have hmod : column % width < width := Nat.mod_lt _ hwidth
    have hchar : expandChar width column c ≠ [] := by
      unfold expandChar
      split
      · rw [Ne, List.replicate_eq_nil_iff]
        omega
      · exact List.cons_ne_nil c []
    rw [expandTabsFrom_cons]
    exact List.append_ne_nil_of_left_ne_nil hchar _

end MlogHighlight.Text
