import MlogHighlight.Proofs.Pattern
import MlogHighlight.Proofs.Run
import MlogHighlight.Word

/-!
# Words and their pattern

The words of a line are the matches of a pattern that looks at the character in front of a word, may
take one sigil, and goes on as long as it can. Main facts:

* `Word.spans_pattern`: the pattern finds the words, in order;
* `Word.mem_all`: a word is a whole run of word characters that begins like a word.
-/

namespace MlogHighlight.Word

open Pattern Text

/-- The pattern of words, `(?<![\p{L}\p{N}_@-])@?[\p{L}\p{N}_][\p{L}\p{N}_@-]*`. -/
def pattern : Pattern where
  lead := [.notBehind isBody]
  captured := [.maybe (· == sigil), .one isHead, .many isBody]

theorem isHead_sigil : isHead sigil = false := by decide

theorem isBody_sigil : isBody sigil = true := by simp [isBody]

theorem isBody_of_isHead {c : Char} (h : isHead c = true) : isBody c = true := by
  simp [isBody, h]

theorem ne_sigil_of_isHead {c : Char} (h : isHead c = true) : c ≠ sigil := by
  rintro rfl
  simp [isHead_sigil] at h

/-- A word is a run of word characters that begins like a word. -/
theorem mem_all {line : Text} {word : Passage} :
    word ∈ all line ↔ IsRun isBody line word ∧ beginsWord word.text = true := by
  rw [all, List.mem_filter, mem_runs]

/-! ## Matches of the pattern -/

/-- The ways to match behind the sigil: a word character, and then the whole run first. -/
theorem ends_one_many (k : Cursor) :
    ends [.one isHead, .many isBody] k =
      (single isHead k).flatMap fun l => (Item.many isBody).ends l := by
  rw [ends_cons]
  congr 1
  funext l
  exact ends_singleton (.many isBody) l

theorem single_isHead_eq_nil {k : Cursor} (h : Stops isHead k.after) : single isHead k = [] := by
  unfold single
  cases hk : k.after with
  | nil => rfl
  | cons c s => simp_all

/-- The first way to match a word character and the rest of its run. -/
theorem head?_ends_one_many {c : Char} (hc : isHead c = true) (before s : Text) :
    (ends [.one isHead, .many isBody] ⟨before, c :: s⟩).head? =
      some ⟨(s.takeWhile isBody).reverse ++ c :: before, s.dropWhile isBody⟩ := by
  have hsingle : single isHead ⟨before, c :: s⟩ = [⟨c :: before, s⟩] := by
    simp [single, hc, Cursor.pass]
  rw [ends_one_many, hsingle, List.flatMap_singleton, head?_ends_many]
  rfl

/-- The captured items match in the way that takes a sigil, if there is one, and the whole run. -/
theorem head?_ends_captured {c : Char} {s : Text} (h : beginsWord (c :: s) = true) (before : Text) :
    (ends pattern.captured ⟨before, c :: s⟩).head? =
      some ⟨(s.takeWhile isBody).reverse ++ c :: before, s.dropWhile isBody⟩ := by
  have hcaptured : ∀ k, ends pattern.captured k =
      (single (· == sigil) k).flatMap (ends [.one isHead, .many isBody]) ++
        ends [.one isHead, .many isBody] k := by
    intro k
    simp only [pattern, ends_cons (.maybe _), Item.ends, List.flatMap_append,
      List.flatMap_singleton]
  rw [hcaptured]
  simp only [beginsWord, Bool.or_eq_true, Bool.and_eq_true, beq_iff_eq] at h
  rcases h with hc | ⟨rfl, hs⟩
  · have hsingle : single (· == sigil) ⟨before, c :: s⟩ = [] := by
      simp [single, ne_sigil_of_isHead hc]
    rw [hsingle, List.flatMap_nil, List.nil_append, head?_ends_one_many hc]
  · cases s with
    | nil => simp at hs
    | cons d s =>
      have hd : isHead d = true := by simpa using hs
      have hsingle : single (· == sigil) ⟨before, sigil :: d :: s⟩ = [⟨sigil :: before, d :: s⟩] := by
        simp [single, Cursor.pass]
      rw [hsingle, List.flatMap_singleton, List.head?_append, head?_ends_one_many hd]
      simp [isBody_of_isHead hd]

theorem matchesAt_eq_of_stops {before : Text} (hbefore : Stops isBody before) (s : Text) :
    pattern.matchesAt ⟨before, s⟩ =
      (ends pattern.captured ⟨before, s⟩).map fun last => ⟨⟨before.length, last.position⟩, last⟩ := by
  have hlead : ends pattern.lead ⟨before, s⟩ = [⟨before, s⟩] := by
    have hitem : (Item.notBehind isBody).ends ⟨before, s⟩ = [⟨before, s⟩] := by
      have hany : before.head?.any isBody = false := hbefore
      simp [Item.ends, hany]
    rw [pattern, ends_cons, hitem]
    rfl
  have htrail : pattern.trail = [] := rfl
  simp only [matchesAt, hlead, htrail, List.flatMap_singleton, ends_nil,
    Cursor.position, List.map_eq_flatMap]

/-- Behind a word character nothing matches: a word is never a part of a longer run. -/
theorem matchesAt_eq_nil_of_not_stops {before : Text} (hbefore : ¬ Stops isBody before) (s : Text) :
    pattern.matchesAt ⟨before, s⟩ = [] := by
  have hany : before.head?.any isBody = true := by simpa [Stops] using hbefore
  simp [matchesAt, pattern, ends_cons, Item.ends, hany]

/-- Nothing matches where no word begins. -/
theorem matchesAt_eq_nil_of_not_beginsWord {s : Text} (hs : beginsWord s = false) (before : Text) :
    pattern.matchesAt ⟨before, s⟩ = [] := by
  by_cases hbefore : Stops isBody before
  · have hcaptured : ends pattern.captured ⟨before, s⟩ = [] := by
      cases s with
      | nil => simp [pattern, ends_cons, Item.ends, single]
      | cons c s =>
        simp only [beginsWord, Bool.or_eq_false_iff, Bool.and_eq_false_iff] at hs
        rcases hs with ⟨hc, hs⟩
        have hone : single isHead ⟨before, c :: s⟩ = [] := single_isHead_eq_nil (by simpa using hc)
        have hsigil : ∀ l ∈ single (· == sigil) ⟨before, c :: s⟩, single isHead l = [] := by
          intro l hl
          rcases mem_single.mp hl with ⟨d, t, hd, hsigil, rfl⟩
          simp only [List.cons.injEq] at hd
          rcases hd with ⟨rfl, rfl⟩
          apply single_isHead_eq_nil
          simpa [Stops, hsigil] using hs
        simp only [pattern, ends_cons (.maybe _), Item.ends, List.flatMap_append,
          List.flatMap_singleton, ends_one_many, hone, List.flatMap_nil, List.append_nil,
          List.flatMap_eq_nil_iff]
        intro l hl
        simp [hsigil l hl]
    rw [matchesAt_eq_of_stops hbefore, hcaptured, List.map_nil]
  · exact matchesAt_eq_nil_of_not_stops hbefore s

/-- Where a word begins, the match that is chosen takes its whole run. -/
theorem head?_matchesAt_of_beginsWord {before s : Text} {c : Char} (hbefore : Stops isBody before)
    (h : beginsWord (c :: s) = true) :
    (pattern.matchesAt ⟨before, c :: s⟩).head? =
      some ⟨⟨before.length, before.length + (c :: s.takeWhile isBody).length⟩,
        ⟨(s.takeWhile isBody).reverse ++ c :: before, s.dropWhile isBody⟩⟩ := by
  rw [matchesAt_eq_of_stops hbefore, List.head?_map, head?_ends_captured h]
  have hposition : ((s.takeWhile isBody).reverse ++ c :: before).length =
      before.length + (c :: s.takeWhile isBody).length := by
    simp only [List.length_append, List.length_reverse, List.length_cons]
    omega
  simp only [Option.map_some, Cursor.position, hposition]

/-! ## The search -/

theorem beginsWord_takeWhile {c : Char} {s : Text} :
    beginsWord (c :: s.takeWhile isBody) = beginsWord (c :: s) := by
  cases s with
  | nil => rfl
  | cons d s =>
    by_cases hd : isBody d = true
    · simp [beginsWord, hd]
    · have hhead : isHead d = false := by
        by_contra h
        exact hd (isBody_of_isHead (by simpa using h))
      simp [beginsWord, hd, hhead]

/-- A search that is inside of a run finds nothing up to the end of the run. -/
theorem find_behind_body {before word : Text} (hbefore : ¬ Stops isBody before)
    (hword : word.all isBody = true) (rest : Text) :
    pattern.find 0 before (word ++ rest) = pattern.find 0 (word.reverse ++ before) rest := by
  induction word generalizing before with
  | nil => rfl
  | cons c word ih =>
    simp only [List.all_cons, Bool.and_eq_true] at hword
    have hnone := matchesAt_eq_nil_of_not_stops hbefore (c :: (word ++ rest))
    rw [List.cons_append, find_cons_of_none pattern (by rw [hnone]; rfl),
      ih (by simp [hword.1]) hword.2]
    simp

/-- The search along a run finds the run if it begins like a word. -/
theorem find_run {before s : Text} {c : Char} (hbefore : Stops isBody before)
    (hc : isBody c = true) : pattern.find 0 before (c :: s) =
      (if beginsWord (c :: s) then [⟨before.length, before.length + (c :: s.takeWhile isBody).length⟩]
        else []) ++
      pattern.find 0 ((s.takeWhile isBody).reverse ++ c :: before) (s.dropWhile isBody) := by
  have hsplit : s = s.takeWhile isBody ++ s.dropWhile isBody := by simp
  by_cases hword : beginsWord (c :: s) = true
  · rw [find_cons_of_some pattern hsplit (head?_matchesAt_of_beginsWord hbefore hword), if_pos hword]
    rfl
  · -- nothing matches at the start of the run, and nothing inside it
    have hnone := matchesAt_eq_nil_of_not_beginsWord (by simpa using hword) before
    have hbehind : ¬ Stops isBody (c :: before) := by simp [hc]
    have hinside := find_behind_body hbehind (all_takeWhile isBody s) (s.dropWhile isBody)
    rw [← hsplit] at hinside
    rw [find_cons_of_none pattern (by rw [hnone]; rfl), hinside, if_neg hword]
    rfl

/-- The search passes a character that is in no run. -/
theorem find_gap {c : Char} (hc : isBody c = false) (before s : Text) :
    pattern.find 0 before (c :: s) = pattern.find 0 (c :: before) s := by
  have hword : beginsWord (c :: s) = false := by
    have hhead : isHead c = false := by
      by_contra h
      simp [isBody_of_isHead (by simpa using h)] at hc
    have hsigil : c ≠ sigil := by
      rintro rfl
      simp [isBody_sigil] at hc
    simp [beginsWord, hhead, hsigil]
  have hnone := matchesAt_eq_nil_of_not_beginsWord hword before
  exact find_cons_of_none pattern (by rw [hnone]; rfl)

/-- The search along the runs of a text that is not begun inside a run. -/
theorem find_eq {before s : Text} (h : Stops isBody before ∨ Stops isBody s) :
    pattern.find 0 before s =
      ((runsFrom isBody before.length s).filter fun run => beginsWord run.text).map (·.span) := by
  induction hlength : s.length using Nat.strongRecOn generalizing before s with
  | _ n ih =>
    cases s with
    | nil => simp [find, runsFrom, matchesAt_eq_nil_of_not_beginsWord (s := []) rfl before]
    | cons c s =>
      simp only [List.length_cons] at hlength
      by_cases hc : isBody c = true
      · have hbefore : Stops isBody before := by simpa [hc] using h
        have hle := (List.dropWhile_sublist isBody (l := s)).length_le
        have hrest : pattern.find 0 ((s.takeWhile isBody).reverse ++ c :: before)
            (s.dropWhile isBody) = _ :=
          ih _ (by omega) (Or.inr (stops_dropWhile isBody s)) rfl
        have hposition : ((s.takeWhile isBody).reverse ++ c :: before).length =
            before.length + 1 + (s.takeWhile isBody).length := by
          simp only [List.length_append, List.length_reverse, List.length_cons]
          omega
        rw [hposition] at hrest
        rw [find_run hbefore hc, runsFrom_cons_of_pos hc, hrest]
        cases hword : beginsWord (c :: s) <;>
          simp [beginsWord_takeWhile, hword, Passage.span, Passage.stop]
      · have hc : isBody c = false := by simpa using hc
        rw [find_gap hc, runsFrom_cons_of_neg hc,
          ih s.length (by omega) (Or.inl (by simpa using hc)) rfl]
        rfl

/-- The pattern finds the words of a line, in order. -/
theorem spans_pattern (line : Text) : pattern.spans line = (all line).map (·.span) := by
  have hfind : pattern.find 0 [] line = (all line).map (·.span) := find_eq (Or.inl stops_nil)
  rw [Pattern.spans, hfind, List.filter_eq_self]
  intro span hspan
  rcases List.mem_map.mp hspan with ⟨word, hword, rfl⟩
  rcases (mem_all.mp hword).1 with ⟨-, -, -, -, hne, -⟩
  have hpos := List.length_pos_iff.mpr hne
  simp [Passage.span, Passage.stop, hpos]

end MlogHighlight.Word
