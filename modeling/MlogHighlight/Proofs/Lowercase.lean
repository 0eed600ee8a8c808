import Mathlib.Data.List.Chain
import MlogHighlight.Proofs.WhiteSpace
import MlogHighlight.Unicode.Lowercase

/-!
# Lowercase texts

What becomes of the characters of a text in lowercase. The table of capitals is long and that of
letters and numbers longer, so they are compared range by range: a range of capitals moves as a
whole. Main facts:

* `RangeMap.exists_mem_of_find?`, `RangeMap.isSome_find?`: what is found in a table of ranges;
* `lowerChar_eq_or`: a character stays as it is, or moves with its range;
* `mem_lower`: the characters of a text in lowercase;
* `lower_of_isLowered`: a text of lowered characters stays as it is.
-/

namespace MlogHighlight.Unicode

/-! ## Tables of ranges -/

namespace RangeMap

variable {α : Type} {ranges : RangeMap α} {n : Nat}

/-- What is found is what a range says that the code point is in. -/
theorem exists_mem_of_find? {offset : Nat} {a : α} (h : ranges.find? n = some (offset, a)) :
    ∃ lo hi, (lo, hi, a) ∈ ranges ∧ lo ≤ n ∧ n ≤ hi ∧ offset = n - lo := by
  induction ranges with
  | nil => simp [find?] at h
  | cons range ranges ih =>
    rcases range with ⟨lo, hi, b⟩
    simp only [find?] at h
    split at h
    · simp at h
    · split at h
      · rename_i hlo hhi
        simp only [Option.some.injEq, Prod.mk.injEq] at h
        rcases h with ⟨rfl, rfl⟩
        exact ⟨lo, hi, List.mem_cons_self, Nat.le_of_not_lt hlo, hhi, rfl⟩
      · rcases ih h with ⟨lo, hi, hmem, hbounds⟩
        exact ⟨lo, hi, List.mem_cons_of_mem _ hmem, hbounds⟩

/-- The first range lies below the second one. -/
def Below (a b : Nat × Nat × α) : Prop := a.1 ≤ b.1 ∧ a.2.1 < b.1

instance (a b : Nat × Nat × α) : Decidable (Below a b) :=
  inferInstanceAs (Decidable (a.1 ≤ b.1 ∧ a.2.1 < b.1))

instance : IsTrans (Nat × Nat × α) Below where
  trans _ _ _ hab hbc := ⟨Nat.le_trans hab.1 hbc.1, Nat.lt_of_lt_of_le hab.2 hbc.1⟩

/-- In a table in order, something is found for the code points of all ranges. -/
theorem isSome_find? (h : ranges.IsChain Below) {range : Nat × Nat × α} (hrange : range ∈ ranges)
    (hlo : range.1 ≤ n) (hhi : n ≤ range.2.1) : (ranges.find? n).isSome = true := by
  induction ranges with
  | nil => simp at hrange
  | cons first ranges ih =>
    have hbelow := (List.pairwise_cons.mp (List.isChain_iff_pairwise.mp h)).1
    simp only [find?]
    rcases List.mem_cons.mp hrange with rfl | hlater
    · rw [if_neg (Nat.not_lt.mpr hlo), if_pos hhi]
      rfl
    · have hfirst := hbelow range hlater
      rw [if_neg (Nat.not_lt.mpr (Nat.le_trans hfirst.1 hlo)),
        if_neg (Nat.not_le.mpr (Nat.lt_of_lt_of_le hfirst.2 hlo))]
      exact ih h.tail hlater

/-- Nothing is found for a code point that is in none of the ranges. -/
theorem find?_eq_none (h : ∀ range ∈ ranges, range.1 ≤ n → ¬ n ≤ range.2.1) :
    ranges.find? n = none := by
  cases hfind : ranges.find? n with
  | none => rfl
  | some found =>
    rcases exists_mem_of_find? hfind with ⟨lo, hi, hmem, hlo, hhi, -⟩
    exact absurd hhi (h _ hmem hlo)

/-- Are all code points from `first` to `last` in ranges of the table? Ranges that follow each other
may share them. -/
def covers : RangeMap α → Nat → Nat → Bool
  | [], _, _ => false
  | range :: ranges, first, last =>
    bif Nat.blt range.2.1 first then covers ranges first last
    else Nat.ble range.1 first && (Nat.ble last range.2.1 || covers ranges (range.2.1 + 1) last)

theorem exists_mem_of_covers {first last : Nat} (h : ranges.covers first last = true)
    (hfirst : first ≤ n) (hlast : n ≤ last) : ∃ range ∈ ranges, range.1 ≤ n ∧ n ≤ range.2.1 := by
  induction ranges generalizing first with
  | nil => simp [covers] at h
  | cons range ranges ih =>
    have hlater : ∀ first', RangeMap.covers ranges first' last = true → first' ≤ n →
        ∃ range' ∈ range :: ranges, range'.1 ≤ n ∧ n ≤ range'.2.1 := by
      intro first' hcovers hfirst'
      rcases ih hcovers hfirst' with ⟨range', hmem, hin⟩
      exact ⟨range', List.mem_cons_of_mem range hmem, hin⟩
    rw [covers] at h
    cases hbefore : Nat.blt range.2.1 first with
    | true =>
      rw [hbefore, cond_true] at h
      exact hlater first h hfirst
    | false =>
      rw [hbefore, cond_false, Bool.and_eq_true, Bool.or_eq_true, Nat.ble_eq, Nat.ble_eq] at h
      by_cases hin : n ≤ range.2.1
      · exact ⟨range, List.mem_cons_self, Nat.le_trans h.1 hfirst, hin⟩
      · rcases h.2 with hle | hcovers
        · exact absurd (Nat.le_trans hlast hle) hin
        · exact hlater _ hcovers (Nat.lt_of_not_le hin)

end RangeMap

theorem wordBlocks_isChain : wordBlocks.IsChain RangeMap.Below := by decide +kernel

/-! ## Ranges of capitals -/

/-- A range of capitals and the rule for it. -/
abbrev CapitalRange := Nat × Nat × CaseShift

namespace CapitalRange

/-- The least code point that the range moves to. -/
def lowerFirst (e : CapitalRange) : Nat := (e.1 + e.2.2.shift).toNat

/-- The greatest code point that the range moves to. -/
def lowerLast (e : CapitalRange) : Nat := (e.2.1 + e.2.2.shift).toNat

/-- The range does not move to the code points from `lo` to `hi`. -/
def avoids (e : CapitalRange) (lo hi : Nat) : Bool :=
  Nat.blt e.lowerLast lo || Nat.blt hi e.lowerFirst

/-- The range does not move to capitals of the second range. If they overlap, both capitals and
small letters are those at every other place. -/
def settles (e e' : CapitalRange) : Bool :=
  e.avoids e'.1 e'.2.1 ||
    ((Nat.beq e.2.2.step 2 || Nat.beq e.1 e.2.1) && Nat.beq e'.2.2.step 2 &&
      Nat.beq ((e.lowerFirst + e'.1) % 2) 1)

/-- Is no letter or number in the range? -/
def isOutsideWords (e : CapitalRange) : Bool :=
  wordBlocks.all fun b => Nat.blt b.2.1 e.1 || Nat.blt e.2.1 b.1

end CapitalRange

theorem valid_of_mem_caseShifts : ∀ e : CapitalRange, e ∈ caseShifts → 0 ≤ e.1 + e.2.2.shift ∧
    (e.lowerLast < 0xD800 ∨ 0xDFFF < e.lowerFirst ∧ e.lowerLast < 0x110000) := by decide +kernel

theorem settles_of_mem_caseShifts :
    ∀ e : CapitalRange, e ∈ caseShifts → ∀ e' ∈ caseShifts, e.settles e' = true := by
  have hall : (caseShifts.all fun e => caseShifts.all fun e' => CapitalRange.settles e e') = true := by
    decide +kernel
  simpa only [List.all_eq_true] using hall

/-- What letters and numbers move to are letters and numbers. -/
theorem covers_of_mem_caseShifts : ∀ e : CapitalRange, e ∈ caseShifts →
    (wordBlocks.covers e.lowerFirst e.lowerLast || e.isOutsideWords) = true := by
  have hall : (caseShifts.all fun e => wordBlocks.covers (CapitalRange.lowerFirst e)
      (CapitalRange.lowerLast e) || CapitalRange.isOutsideWords e) = true := by decide +kernel
  simpa only [List.all_eq_true] using hall

/-- No capital moves to the dotted capital, or to a character that divides words. -/
theorem avoids_of_mem_caseShifts : ∀ e : CapitalRange, e ∈ caseShifts →
    ∀ range ∈ whiteSpace ++ [(0x2D, 0x2D), (0x5F, 0x5F), (0x130, 0x130)],
      e.avoids range.1 range.2 = true := by decide +kernel

/-! ## Characters -/

theorem toNat_ofNat_of_isValidChar {n : Nat} (h : n.isValidChar) : (Char.ofNat n).toNat = n := by
  rw [Char.ofNat, dif_pos h]
  rfl

/-- The character is a capital of the range. -/
structure CapitalRange.Has (e : CapitalRange) (c : Char) : Prop where
  mem : e ∈ caseShifts
  first_le : e.1 ≤ c.toNat
  le_last : c.toNat ≤ e.2.1
  step : (c.toNat - e.1) % e.2.2.step = 0
  toNat_lowerChar : ((lowerChar c).toNat : Int) = c.toNat + e.2.2.shift

/-- A character stays as it is, or moves with its range. -/
theorem lowerChar_eq_or (c : Char) : lowerChar c = c ∨ ∃ e : CapitalRange, e.Has c := by
  cases hfind : caseShifts.find? c.toNat with
  | none =>
    left
    rw [lowerChar, hfind]
  | some found =>
    rcases found with ⟨offset, rule⟩
    rcases RangeMap.exists_mem_of_find? hfind with ⟨lo, hi, hmem, hlo, hhi, rfl⟩
    by_cases hstep : (c.toNat - lo) % rule.step = 0
    · right
      have hlower : lowerChar c = Char.ofNat (c.toNat + rule.shift).toNat := by
        simp only [lowerChar, hfind, if_pos hstep]
      rcases valid_of_mem_caseShifts _ hmem with ⟨hpos, hvalid⟩
      simp only [CapitalRange.lowerFirst, CapitalRange.lowerLast] at hpos hvalid
      have hchar : (c.toNat + rule.shift).toNat.isValidChar := by
        unfold Nat.isValidChar
        omega
      refine ⟨(lo, hi, rule), hmem, hlo, hhi, hstep, ?_⟩
      rw [hlower, toNat_ofNat_of_isValidChar hchar]
      exact Int.toNat_of_nonneg (by omega)
    · left
      simp only [lowerChar, hfind, if_neg hstep]

namespace CapitalRange.Has

variable {e : CapitalRange} {c : Char}

/-- Where the lowercase of a capital is. -/
theorem bounds (h : e.Has c) :
    e.lowerFirst ≤ (lowerChar c).toNat ∧ (lowerChar c).toNat ≤ e.lowerLast := by
  have hpos := (valid_of_mem_caseShifts e h.mem).1
  have hlo := h.first_le
  have hhi := h.le_last
  have hlower := h.toNat_lowerChar
  unfold lowerFirst lowerLast
  omega

theorem of_avoids (h : e.Has c) {lo hi : Nat} (havoids : e.avoids lo hi = true)
    (hlo : lo ≤ (lowerChar c).toNat) : ¬ (lowerChar c).toNat ≤ hi := by
  have hbounds := h.bounds
  simp only [avoids, Bool.or_eq_true, Nat.blt_eq] at havoids
  omega

/-- The lowercase of a capital is no capital. -/
theorem not_has (h : e.Has c) (e' : CapitalRange) : ¬ e'.Has (lowerChar c) := by
  intro h'
  have hsettles := settles_of_mem_caseShifts e h.mem e' h'.mem
  rcases Bool.or_eq_true_iff.mp hsettles with havoids | hparity
  · exact h.of_avoids havoids h'.first_le h'.le_last
  · simp only [Bool.and_eq_true, Bool.or_eq_true, Nat.beq_eq] at hparity
    rcases hparity with ⟨⟨hstep, hstep'⟩, hodd⟩
    -- `c` is at an even place of its range, and its lowercase at an odd place of the other
    have hplace := h.step
    have hplace' := h'.step
    have hlo := h.first_le
    have hhi := h.le_last
    have hlo' := h'.first_le
    have hlower := h.toNat_lowerChar
    have hpos := (valid_of_mem_caseShifts e h.mem).1
    rw [hstep'] at hplace'
    unfold lowerFirst at hodd
    have heven : (c.toNat - e.1) % 2 = 0 := by
      rcases hstep with hstep | hsingle
      · rwa [hstep] at hplace
      · omega
    omega

end CapitalRange.Has

theorem lowerChar_lowerChar (c : Char) : lowerChar (lowerChar c) = lowerChar c := by
  rcases lowerChar_eq_or c with hc | ⟨e, he⟩
  · rw [hc, hc]
  · rcases lowerChar_eq_or (lowerChar c) with hc' | ⟨e', he'⟩
    · exact hc'
    · exact absurd he' (he.not_has e')

/-! ## Texts -/

/-- What a character may become in lowercase; the capital sigma has two forms. -/
def lowerForms (c : Char) : Text :=
  if c = 'Σ' then ['σ', 'ς'] else if c = 'İ' then ['i', '\u0307'] else [lowerChar c]

theorem lowerForms_cases {c d : Char} (h : d ∈ lowerForms c) :
    d ∈ ['σ', 'ς'] ∨ c = 'İ' ∧ d ∈ ['i', '\u0307'] ∨ c ≠ 'Σ' ∧ c ≠ 'İ' ∧ d = lowerChar c := by
  unfold lowerForms at h
  by_cases hsigma : c = 'Σ'
  · rw [if_pos hsigma] at h
    exact Or.inl h
  · rw [if_neg hsigma] at h
    by_cases hdotted : c = 'İ'
    · rw [if_pos hdotted] at h
      exact Or.inr (Or.inl ⟨hdotted, h⟩)
    · rw [if_neg hdotted, List.mem_singleton] at h
      exact Or.inr (Or.inr ⟨hsigma, hdotted, h⟩)

/-- The characters of a text in lowercase are forms of its characters. -/
theorem mem_lowerAfter {before s : Text} {d : Char} (h : d ∈ lowerAfter before s) :
    ∃ c ∈ s, d ∈ lowerForms c := by
  induction s generalizing before with
  | nil => simp [lowerAfter] at h
  | cons c s ih =>
    simp only [lowerAfter] at h
    rcases List.mem_append.mp h with h | h
    · refine ⟨c, List.mem_cons_self, ?_⟩
      unfold lowerForms
      split at h
      · rename_i hsigma
        rw [if_pos hsigma]
        split at h
        · exact List.mem_cons_of_mem _ h
        · rw [List.mem_singleton.mp h]
          exact List.mem_cons_self
      · rename_i hsigma
        rwa [if_neg hsigma]
    · rcases ih h with ⟨c', hc', hd⟩
      exact ⟨c', List.mem_cons_of_mem c hc', hd⟩

theorem mem_lower {s : Text} {d : Char} (h : d ∈ lower s) : ∃ c ∈ s, d ∈ lowerForms c :=
  mem_lowerAfter h

/-- The dotted capital leaves its dot. -/
theorem dot_mem_lowerAfter {s : Text} (h : 'İ' ∈ s) (before : Text) :
    '\u0307' ∈ lowerAfter before s := by
  induction s generalizing before with
  | nil => simp at h
  | cons c s ih =>
    simp only [lowerAfter]
    rcases List.mem_cons.mp h with rfl | h
    · exact List.mem_append_left _ (by simp)
    · exact List.mem_append_right _ (ih h _)

theorem lowerAfter_ne_nil (before : Text) {s : Text} (h : s ≠ []) : lowerAfter before s ≠ [] := by
  cases s with
  | nil => exact absurd rfl h
  | cons c s =>
    simp only [lowerAfter]
    intro hnil
    have hform := (List.append_eq_nil_iff.mp hnil).1
    split at hform
    · simp at hform
    · split at hform <;> simp at hform

/-! ### Texts in lowercase -/

/-- The character stays as it is in lowercase, wherever it stands. -/
structure IsLowered (c : Char) : Prop where
  ne_sigma : c ≠ 'Σ'
  ne_dotted : c ≠ 'İ'
  lowerChar_eq : lowerChar c = c

/-- A character and what it moves to, if this is to be no character of some range. -/
theorem lowerChar_avoids {c : Char} (hc : lowerChar c ≠ c) (range : Nat × Nat)
    (hrange : range ∈ whiteSpace ++ [(0x2D, 0x2D), (0x5F, 0x5F), (0x130, 0x130)])
    (hlo : range.1 ≤ (lowerChar c).toNat) : ¬ (lowerChar c).toNat ≤ range.2 := by
  rcases lowerChar_eq_or c with heq | ⟨e, he⟩
  · exact absurd heq hc
  · exact he.of_avoids (avoids_of_mem_caseShifts e he.mem range hrange) hlo

theorem isLowered_lowerChar {c : Char} (hdotted : c ≠ 'İ') : IsLowered (lowerChar c) where
  ne_sigma := by
    intro hsigma
    have hagain := lowerChar_lowerChar c
    rw [hsigma] at hagain
    exact absurd hagain (by decide)
  ne_dotted := by
    intro hlower
    by_cases hc : lowerChar c = c
    · exact hdotted (hc.symm.trans hlower)
    · have havoids := lowerChar_avoids hc (0x130, 0x130) (by simp)
      rw [hlower] at havoids
      exact havoids (by decide) (by decide)
  lowerChar_eq := lowerChar_lowerChar c

theorem isLowered_of_mem_lowerForms {c d : Char} (h : d ∈ lowerForms c) : IsLowered d := by
  rcases lowerForms_cases h with hd | ⟨-, hd⟩ | ⟨-, hdotted, rfl⟩
  · simp only [List.mem_cons, List.not_mem_nil, or_false] at hd
    rcases hd with rfl | rfl <;> exact ⟨by decide, by decide, by decide⟩
  · simp only [List.mem_cons, List.not_mem_nil, or_false] at hd
    rcases hd with rfl | rfl <;> exact ⟨by decide, by decide, by decide⟩
  · exact isLowered_lowerChar hdotted

theorem isLowered_of_mem_lower {s : Text} {d : Char} (h : d ∈ lower s) : IsLowered d := by
  rcases mem_lower h with ⟨c, -, hd⟩
  exact isLowered_of_mem_lowerForms hd

theorem lowerAfter_of_isLowered {s : Text} (h : ∀ c ∈ s, IsLowered c) (before : Text) :
    lowerAfter before s = s := by
  induction s generalizing before with
  | nil => rfl
  | cons c s ih =>
    rcases List.forall_mem_cons.mp h with ⟨hc, hs⟩
    simp only [lowerAfter, if_neg hc.ne_sigma, if_neg hc.ne_dotted, hc.lowerChar_eq, ih hs]
    rfl

theorem lower_of_isLowered {s : Text} (h : ∀ c ∈ s, IsLowered c) : lower s = s :=
  lowerAfter_of_isLowered h []

/-! ### Letters, numbers and what divides words -/

theorem isLetter_or_isNumber (c : Char) :
    (isLetter c || isNumber c) = (wordClass? c).isSome := by
  unfold isLetter isNumber
  cases wordClass? c with
  | none => rfl
  | some wordClass => cases wordClass <;> rfl

/-- What a letter or number moves to is a letter or number. -/
theorem isSome_wordClass?_lowerChar {c : Char} (h : (wordClass? c).isSome = true) :
    (wordClass? (lowerChar c)).isSome = true := by
  unfold wordClass? at h ⊢
  rw [Option.isSome_map] at h ⊢
  rcases lowerChar_eq_or c with heq | ⟨e, he⟩
  · rwa [heq]
  · rcases Bool.or_eq_true_iff.mp (covers_of_mem_caseShifts e he.mem) with hcovers | houtside
    · rcases RangeMap.exists_mem_of_covers hcovers he.bounds.1 he.bounds.2 with
        ⟨range, hrange, hlo, hhi⟩
      exact RangeMap.isSome_find? wordBlocks_isChain hrange hlo hhi
    · have hnone : wordBlocks.find? c.toNat = none := by
        apply RangeMap.find?_eq_none
        intro range hrange hlo
        have hrange' := List.all_eq_true.mp houtside range hrange
        have hfirst := he.first_le
        have hlast := he.le_last
        simp only [Bool.or_eq_true, Nat.blt_eq] at hrange'
        omega
      simp [hnone] at h

/-- Letters and numbers remain letters and numbers, but for the dot of the dotted capital. -/
theorem wordClass?_of_mem_lower {s : Text} {d : Char} (hs : ∀ c ∈ s, (wordClass? c).isSome = true)
    (h : d ∈ lower s) : (wordClass? d).isSome = true ∨ 'İ' ∈ s ∧ d = '\u0307' := by
  rcases mem_lower h with ⟨c, hc, hform⟩
  rcases lowerForms_cases hform with hd | ⟨rfl, hd⟩ | ⟨-, -, rfl⟩
  · simp only [List.mem_cons, List.not_mem_nil, or_false] at hd
    rcases hd with rfl | rfl <;> exact Or.inl (by decide)
  · simp only [List.mem_cons, List.not_mem_nil, or_false] at hd
    rcases hd with rfl | rfl
    · exact Or.inl (by decide)
    · exact Or.inr ⟨hc, rfl⟩
  · exact Or.inl (isSome_wordClass?_lowerChar (hs c hc))

end MlogHighlight.Unicode
