import Mathlib.Data.List.Basic
import MlogHighlight.Label
import MlogHighlight.Word

/-!
# White space and word characters

Blanks separate words and labels: no blank, and so no white space character, can be a part of one. The
table of white space is small, so it is compared with the table of letters and numbers point by point.
-/

namespace MlogHighlight.Unicode

/-- The code points in a table of ranges. -/
def Ranges.points (ranges : Ranges) : List Nat :=
  ranges.flatMap fun (lo, hi) => List.range' lo (hi + 1 - lo)

theorem Ranges.mem_points_of_contains {ranges : Ranges} {n : Nat} (h : ranges.contains n = true) :
    n ∈ ranges.points := by
  induction ranges with
  | nil => simp [contains] at h
  | cons range ranges ih =>
    rcases range with ⟨lo, hi⟩
    simp only [points, List.flatMap_cons, List.mem_append]
    simp only [contains] at h
    split at h
    · simp at h
    · split at h
      · left
        rw [List.mem_range'_1]
        omega
      · exact Or.inr (ih h)

theorem find?_wordBlocks_of_mem_points :
    ∀ n ∈ whiteSpace.points, wordBlocks.find? n = none := by decide +kernel

theorem wordClass?_of_isWhiteSpace {c : Char} (h : isWhiteSpace c = true) : wordClass? c = none := by
  rw [wordClass?, find?_wordBlocks_of_mem_points _ (Ranges.mem_points_of_contains h)]
  rfl

theorem find?_wordBlocks_of_mem_informationSeparators :
    ∀ n ∈ List.range' 0x1C 4, wordBlocks.find? n = none := by decide +kernel

/-- The information separators are no letters and numbers either. -/
theorem wordClass?_of_isBlank {c : Char} (h : isBlank c = true) : wordClass? c = none := by
  rw [isBlank, Bool.or_eq_true] at h
  rcases h with hspace | hinformation
  · exact wordClass?_of_isWhiteSpace hspace
  · simp only [isInformationSeparator, Bool.and_eq_true, decide_eq_true_eq, Char.le_def,
      UInt32.le_iff_toNat_le] at hinformation
    have hpoint : c.toNat ∈ List.range' 0x1C 4 := by
      rw [List.mem_range'_1]
      exact ⟨hinformation.1, Nat.lt_succ_of_le hinformation.2⟩
    rw [wordClass?, find?_wordBlocks_of_mem_informationSeparators _ hpoint]
    rfl

/-- White space is no letter. -/
theorem isLetter_of_isWhiteSpace {c : Char} (h : isWhiteSpace c = true) : isLetter c = false := by
  rw [isLetter, wordClass?_of_isWhiteSpace h]

/-- White space is no number. -/
theorem isNumber_of_isWhiteSpace {c : Char} (h : isWhiteSpace c = true) : isNumber c = false := by
  rw [isNumber, wordClass?_of_isWhiteSpace h]
  rfl

end MlogHighlight.Unicode

namespace MlogHighlight

open Unicode

/-- Apart from letters and numbers, words have three characters. -/
theorem Word.isBody_of_wordClass? {c : Char} (hclass : wordClass? c = none) (hscore : c ≠ '_')
    (hhyphen : c ≠ '-') (hsigil : c ≠ Word.sigil) : Word.isBody c = false := by
  simp [Word.isBody, Word.isHead, isLetter, isNumber, hclass, hscore, hhyphen, hsigil]

/-- A blank is no part of a word. -/
theorem Word.isBody_of_isBlank {c : Char} (h : isBlank c = true) : Word.isBody c = false := by
  have hne : ∀ d, isBlank d = false → c ≠ d := by
    rintro d hd rfl
    rw [h] at hd
    exact Bool.noConfusion hd
  exact isBody_of_wordClass? (wordClass?_of_isBlank h) (hne '_' (by decide)) (hne '-' (by decide))
    (hne Word.sigil (by decide))

/-- White space is no part of a word. -/
theorem Word.isBody_of_isWhiteSpace {c : Char} (h : isWhiteSpace c = true) :
    Word.isBody c = false := isBody_of_isBlank (isBlank_of_isWhiteSpace h)

/-- What labels begin with, words may begin with. -/
theorem Label.wordHead_of_isHead {c : Char} (h : Label.isHead c = true) : Word.isHead c = true := by
  simp only [Label.isHead, Bool.or_eq_true] at h
  rcases h with h | h <;> simp [Word.isHead, h]

/-- What labels are made of, words are made of. -/
theorem Label.wordBody_of_isBody {c : Char} (h : Label.isBody c = true) : Word.isBody c = true := by
  simp only [Label.isBody, Bool.or_eq_true] at h
  rcases h with (h | h) | h
  · simp [Word.isBody, Label.wordHead_of_isHead h]
  · simp [Word.isBody, Word.isHead, h]
  · simp [Word.isBody, h]

/-- What words are not made of, labels are not made of. -/
theorem Label.isBody_of_wordBody {c : Char} (h : Word.isBody c = false) :
    Label.isBody c = false := by
  by_contra hbody
  rw [wordBody_of_isBody (by simpa using hbody)] at h
  exact Bool.noConfusion h

/-- White space is no part of a label. -/
theorem Label.isBody_of_isWhiteSpace {c : Char} (h : isWhiteSpace c = true) :
    Label.isBody c = false := isBody_of_wordBody (Word.isBody_of_isWhiteSpace h)

theorem Label.isBody_of_isHead {c : Char} (h : Label.isHead c = true) : Label.isBody c = true := by
  simp [Label.isBody, h]

end MlogHighlight
