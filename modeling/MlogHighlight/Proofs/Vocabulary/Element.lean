import MlogHighlight.Proofs.Vocabulary.Layout

/-!
# Reading the elements of a layout

Every reader of an element takes the element of a layout that fits, and whatever it takes is an
element that fits. Main facts:

* `skipGap_append`, `exists_gap`: skipping a gap takes the gap, and all of it;
* `IsGap.unique`: a text can begin with one gap only, if none of the gap is left over;
* `word?_text`, `exists_word`: reading a word;
* `transform?_append`, `exists_transform`: reading a transform.
-/

namespace MlogHighlight.Vocabulary

open Text

/-! ## Gaps -/

/-- What a gap may begin with. -/
def gapStarts : List Char := [' ', '\t', '\n', '\r', '#']

/-- No gap begins with a character of the class. -/
def AvoidsGaps (p : Char → Bool) : Prop := gapStarts.any p = false

theorem avoidsGaps_isBareChar : AvoidsGaps isBareChar := rfl

theorem avoidsGaps_isNameHead : AvoidsGaps isNameHead := rfl

theorem avoidsGaps_isNameBody : AvoidsGaps isNameBody := rfl

theorem avoidsGaps_isCategoryChar : AvoidsGaps isCategoryChar := rfl

theorem avoidsGaps_isHead : AvoidsGaps Word.isHead := rfl

theorem AvoidsGaps.eq_false {p : Char → Bool} (hp : AvoidsGaps p) {c : Char}
    (hc : beginsGap c = true) : p c = false := by
  have hmem : c ∈ gapStarts := by
    simp only [beginsGap, isGapChar, Bool.or_eq_true, beq_iff_eq] at hc
    simp only [gapStarts, List.mem_cons, List.not_mem_nil, or_false]
    tauto
  simpa using List.any_eq_false.mp hp c hmem

/-- A text that begins with a character of such a class does not begin with a gap. -/
theorem AvoidsGaps.stops {p : Char → Bool} (hp : AvoidsGaps p) {c : Char} (hc : p c = true)
    (s : Text) : Stops beginsGap (c :: s) := by
  rw [stops_cons]
  by_contra hgap
  rw [hp.eq_false (by simpa using hgap)] at hc
  simp at hc

theorem AvoidsGaps.stops_append_of_all {p : Char → Bool} (hp : AvoidsGaps p) {word : Text}
    (hne : word ≠ []) (hall : word.all p = true) (rest : Text) :
    Stops beginsGap (word ++ rest) := by
  cases word with
  | nil => exact absurd rfl hne
  | cons c word =>
    rw [List.all_cons, Bool.and_eq_true] at hall
    exact hp.stops hall.1 (word ++ rest)

theorem skipGap_blank {c : Char} (hc : isGapChar c = true) (s : Text) :
    skipGap (c :: s) = skipGap s := by
  simp [skipGap, skipGapFrom, hc]

theorem skipGapFrom_comment (s : Text) : skipGapFrom true s = skipGap (s.dropWhile (· ≠ '\n')) := by
  induction s with
  | nil => rfl
  | cons c s ih =>
    by_cases hc : c = '\n'
    · rw [hc]
      simp [skipGap, skipGapFrom, isGapChar]
    · have hne : (c != '\n') = true := by simpa using hc
      simp [skipGapFrom, hne, hc, ih]

theorem skipGap_comment (s : Text) : skipGap ('#' :: s) = skipGap (s.dropWhile (· ≠ '\n')) := by
  rw [← skipGapFrom_comment]
  rfl

theorem skipGap_of_stops {s : Text} (h : Stops beginsGap s) : skipGap s = s := by
  cases s with
  | nil => rfl
  | cons c s =>
    have hc : beginsGap c = false := by simpa using h
    simp only [beginsGap, Bool.or_eq_false_iff, beq_eq_false_iff_ne] at hc
    simp [skipGap, skipGapFrom, hc.1, hc.2]

/-- A comment ends where the line ends. -/
theorem dropWhile_comment {words rest : Text} (hwords : '\n' ∉ words) (hrest : AtLineEnd rest) :
    (words ++ rest).dropWhile (· ≠ '\n') = rest := by
  have hstops : Stops (· ≠ '\n') rest := by
    rcases hrest.cases with rfl | ⟨t, rfl⟩ <;> simp
  exact dropWhile_append_of_run (all_ne_of_notMem hwords) hstops

/-- A gap is skipped, and then what follows it as if the gap were not there. -/
theorem skipGap_append_of_isGap {gap rest : Text} (h : IsGap gap rest) :
    skipGap (gap ++ rest) = skipGap rest := by
  induction h with
  | nil rest => rfl
  | blank c gap rest hc _ ih => rw [List.cons_append, skipGap_blank hc, ih]
  | comment words gap rest hwords hend _ ih =>
    rw [List.append_assoc, List.cons_append, skipGap_comment, dropWhile_comment hwords hend, ih]

/-- Skipping a gap takes all of it. -/
theorem skipGap_append {gap rest : Text} (h : IsGap gap rest) (hrest : Stops beginsGap rest) :
    skipGap (gap ++ rest) = rest := by
  rw [skipGap_append_of_isGap h, skipGap_of_stops hrest]

/-- What is skipped is a gap, and nothing of it is left over. -/
theorem exists_gap (s : Text) :
    ∃ gap, s = gap ++ skipGap s ∧ IsGap gap (skipGap s) ∧ Stops beginsGap (skipGap s) := by
  induction hlength : s.length using Nat.strongRecOn generalizing s with
  | _ n ih =>
    cases s with
    | nil => exact ⟨[], rfl, IsGap.nil _, stops_nil⟩
    | cons c s =>
      simp only [List.length_cons] at hlength
      by_cases hblank : isGapChar c = true
      · rcases ih s.length (by omega) s rfl with ⟨gap, hs, hgap, hstops⟩
        rw [skipGap_blank hblank]
        refine ⟨c :: gap, ?_, IsGap.blank c gap _ hblank hgap, hstops⟩
        rw [List.cons_append, ← hs]
      · by_cases hcomment : c = '#'
        · -- the gap goes on behind the comment
          have hle := (List.dropWhile_sublist (· ≠ '\n') (l := s)).length_le
          rcases ih (s.dropWhile (· ≠ '\n')).length (by omega) _ rfl with ⟨gap, hs, hgap, hstops⟩
          rw [hcomment, skipGap_comment]
          refine ⟨'#' :: s.takeWhile (· ≠ '\n') ++ gap, ?_,
            IsGap.comment _ gap _ (lineFeed_notMem_takeWhile s) ?_ hgap, hstops⟩
          · rw [List.append_assoc, ← hs, List.cons_append, List.takeWhile_append_dropWhile]
          · rw [← hs]
            exact atLineEnd_dropWhile s
        · have hstops : Stops beginsGap (c :: s) := by
            rw [stops_cons, beginsGap, Bool.or_eq_false_iff, beq_eq_false_iff_ne]
            exact ⟨by simpa using hblank, hcomment⟩
          rw [skipGap_of_stops hstops]
          exact ⟨[], rfl, IsGap.nil _, hstops⟩

/-- A text can begin with one gap only, if none of the gap is left over. -/
theorem IsGap.unique {gap gap' rest rest' : Text} (h : IsGap gap rest) (h' : IsGap gap' rest')
    (hrest : Stops beginsGap rest) (hrest' : Stops beginsGap rest')
    (heq : gap ++ rest = gap' ++ rest') : gap = gap' ∧ rest = rest' := by
  have hsame : rest = rest' := by
    rw [← skipGap_append h hrest, heq, skipGap_append h' hrest']
  constructor
  · rw [← hsame] at heq
    exact List.append_cancel_right heq
  · exact hsame

/-! ## Marks -/

theorem mark?_cons (mark : Char) (s : Text) : mark? mark (mark :: s) = some s := if_pos rfl

theorem eq_cons_of_mark? {mark : Char} {s rest : Text} (h : mark? mark s = some rest) :
    s = mark :: rest := by
  cases s with
  | nil => simp [mark?] at h
  | cons c s =>
    simp only [mark?] at h
    split at h
    · rename_i hc
      rw [hc, Option.some.inj h]
    · simp at h

/-! ## Words -/

/-- A word does not begin with a gap. -/
theorem stops_word {w : WordLayout} {rest : Text} (h : w.Fits rest) :
    Stops beginsGap (w.text rest) := by
  cases w with
  | quoted body => exact stops_cons.mpr (by decide)
  | bare word => exact avoidsGaps_isBareChar.stops_append_of_all h.1 h.2.1 rest

theorem word?_quote (body : Text) : word? ('"' :: body) =
    (mark? '"' (body.dropWhile isQuotedChar)).map fun rest =>
      (unescape (body.takeWhile isQuotedChar), rest) := rfl

theorem stops_quote (rest : Text) : Stops isQuotedChar ('"' :: rest) := stops_cons.mpr (by decide)

theorem word?_bare {c : Char} (hc : isBareChar c = true) (s : Text) :
    word? (c :: s) = some (c :: s.takeWhile isBareChar, s.dropWhile isBareChar) := by
  have hquote : c ≠ '"' := by
    rintro rfl
    exact absurd hc (by decide)
  unfold word?
  split
  · rename_i hcons
    exact absurd (List.cons.inj hcons).1 hquote
  · rw [List.takeWhile_cons_of_pos hc, List.dropWhile_cons_of_pos hc]

theorem word?_eq_none {s : Text} (hquote : s.head? ≠ some '"') (hbare : Stops isBareChar s) :
    word? s = none := by
  unfold word?
  split
  · simp at hquote
  · rw [takeWhile_of_stops hbare]

/-- A word that fits is read. -/
theorem word?_text {w : WordLayout} {rest : Text} (h : w.Fits rest) :
    word? (w.text rest) = some (w.value, rest) := by
  cases w with
  | quoted body =>
    have hbody : body.all isQuotedChar = true := h
    rw [WordLayout.text, word?_quote, dropWhile_append_of_run hbody (stops_quote rest),
      takeWhile_append_of_run hbody (stops_quote rest), mark?_cons]
    rfl
  | bare word =>
    rcases h with ⟨hne, hall, hstops⟩
    cases word with
    | nil => exact absurd rfl hne
    | cons c word =>
      rw [List.all_cons, Bool.and_eq_true] at hall
      rw [WordLayout.text, List.cons_append, word?_bare hall.1, takeWhile_append_of_run hall.2 hstops,
        dropWhile_append_of_run hall.2 hstops]
      rfl

/-- What is read as a word is one that fits. -/
theorem exists_word {s value rest : Text} (h : word? s = some (value, rest)) :
    ∃ w : WordLayout, s = w.text rest ∧ w.Fits rest ∧ w.value = value := by
  cases s with
  | nil => simp [word?] at h
  | cons c s =>
    by_cases hquote : c = '"'
    · rw [hquote, word?_quote] at h
      rcases Option.map_eq_some_iff.mp h with ⟨rest', hmark, hresult⟩
      rcases Prod.mk.inj hresult with ⟨hvalue, rfl⟩
      refine ⟨.quoted (s.takeWhile isQuotedChar), ?_, all_takeWhile _ _, hvalue⟩
      rw [hquote, WordLayout.text, ← eq_cons_of_mark? hmark, List.takeWhile_append_dropWhile]
    · by_cases hc : isBareChar c = true
      · rw [word?_bare hc, Option.some.injEq, Prod.mk.injEq] at h
        refine ⟨.bare value, ?_, ⟨?_, ?_, ?_⟩, rfl⟩
        · rw [WordLayout.text, ← h.1, ← h.2, List.cons_append, List.takeWhile_append_dropWhile]
        · rw [← h.1]
          exact List.cons_ne_nil _ _
        · rw [← h.1, List.all_cons, hc, all_takeWhile]
          rfl
        · rw [← h.2]
          exact stops_dropWhile _ _
      · have hnone : word? (c :: s) = none :=
          word?_eq_none (by simpa using hquote) (stops_cons.mpr (by simpa using hc))
        rw [hnone] at h
        simp at h

/-- Two words of one text are the same word. -/
theorem WordLayout.unique {w w' : WordLayout} {rest rest' : Text} (h : w.Fits rest)
    (h' : w'.Fits rest') (heq : w.text rest = w'.text rest') : w = w' ∧ rest = rest' := by
  have hquote : isBareChar '"' = false := by decide
  cases w with
  | quoted body =>
    cases w' with
    | quoted body' =>
      simp only [text, List.cons.injEq, true_and] at heq
      rcases run_unique h h' (stops_quote rest) (stops_quote rest') heq with ⟨rfl, hrest⟩
      exact ⟨rfl, (List.cons.inj hrest).2⟩
    | bare word =>
      rcases h' with ⟨hne, hall, -⟩
      cases word with
      | nil => exact absurd rfl hne
      | cons c word =>
        rw [List.all_cons, Bool.and_eq_true, ← (List.cons.inj heq).1, hquote] at hall
        exact absurd hall.1 (by simp)
  | bare word =>
    cases w' with
    | quoted body =>
      rcases h with ⟨hne, hall, -⟩
      cases word with
      | nil => exact absurd rfl hne
      | cons c word =>
        rw [List.all_cons, Bool.and_eq_true, (List.cons.inj heq).1, hquote] at hall
        exact absurd hall.1 (by simp)
    | bare word' =>
      rcases run_unique h.2.1 h'.2.1 h.2.2 h'.2.2 heq with ⟨rfl, hrest⟩
      exact ⟨rfl, hrest⟩

/-! ## Transforms -/

/-- The names of the transforms by their characters. -/
theorem transform_name (t : Naming.Transform) : t.name =
    match t with
    | .none => ['n', 'o', 'n', 'e']
    | .sigil => ['s', 'i', 'g', 'i', 'l']
    | .content => ['c', 'o', 'n', 't', 'e', 'n', 't'] := by
  cases t <;> rfl

theorem stops_transform (t : Naming.Transform) (rest : Text) :
    Stops beginsGap (t.name ++ rest) := by
  cases t <;> exact stops_cons.mpr (by decide)

/-- A transform that ends where it may is read. -/
theorem transform?_append {t : Naming.Transform} {rest : Text} (h : endsTransform rest = true) :
    transform? (t.name ++ rest) = some (t, rest) := by
  cases t <;> simp [transform?, Naming.Transform.all, transform_name, h]

theorem exists_transform {s rest : Text} {t : Naming.Transform} (h : transform? s = some (t, rest)) :
    s = t.name ++ rest ∧ endsTransform rest = true := by
  rcases List.exists_of_findSome?_eq_some h with ⟨t', -, ht'⟩
  split at ht'
  · rename_i hprefix
    rcases Prod.mk.inj (Option.some.inj ht') with ⟨rfl, rfl⟩
    rw [Bool.and_eq_true, List.isPrefixOf_iff_prefix] at hprefix
    rcases hprefix.1 with ⟨rest, rfl⟩
    constructor
    · rw [List.drop_left]
    · exact hprefix.2
  · simp at ht'

theorem transform?_brace (s : Text) : transform? ('\x7b' :: s) = none := by
  simp [transform?, Naming.Transform.all, transform_name]

/-- Two transforms of one text are the same transform. -/
theorem transform_unique {t t' : Naming.Transform} {rest rest' : Text}
    (h : t.name ++ rest = t'.name ++ rest') : t = t' ∧ rest = rest' := by
  cases t <;> cases t' <;> simp_all [transform_name]

end MlogHighlight.Vocabulary
