import MlogHighlight.Proofs.SourceForm

/-!
# The words of a content name as maximal pieces

What a word of a content name is can be said without saying how words are found: it is a piece, a
part without separators and humps, that is part of no longer piece. It does not matter either that
names may be divided in two passes, of which the first one puts a blank into every hump and the
second one splits at separators. Main facts:

* `isMaximalPieceFrom_iff`: a piece is maximal if the name falls apart on both sides of it;
* `Divides.mem_iff`, `Divides.map_text`: reading a name from left to right gives its maximal pieces,
  and they are its words;
* `filter_splitRuns_divideHumps`: so do the two passes;
* `contentName_maximalPieces`: what this says of the form in source text.
-/

namespace MlogHighlight

open Text

namespace Naming

open Unicode

/-! ## Pieces side by side -/

variable {front back word rest s : Text}

theorem fallsApart_nil_left (back : Text) : FallsApart [] back := by
  intro c hc
  simp at hc

theorem fallsApart_nil_right (front : Text) : FallsApart front [] := by
  intro c _ d hd
  simp at hd

theorem fallsApart_append_left (hne : back ≠ []) (front : Text) :
    FallsApart (front ++ back) rest ↔ FallsApart back rest := by
  unfold FallsApart
  rw [List.getLast?_append_of_ne_nil front hne]

theorem fallsApart_append_right (hne : front ≠ []) (back : Text) :
    FallsApart word (front ++ back) ↔ FallsApart word front := by
  unfold FallsApart
  rw [List.head?_append_of_ne_nil front hne]

/-- Two texts side by side are a piece if both are and nothing falls apart between them. -/
theorem isPiece_append (hfront : front ≠ []) (hback : back ≠ []) :
    IsPiece (front ++ back) ↔ IsPiece front ∧ IsPiece back ∧ ¬ FallsApart front back := by
  have hlast := List.getLast?_eq_getLast_of_ne_nil hfront
  have hhead := List.head?_eq_some_head hback
  have hapart : FallsApart front back ↔ isBreak (front.getLast hfront) (back.head hback) = true := by
    simp [FallsApart, hlast, hhead]
  rw [hapart, Bool.not_eq_true]
  constructor
  · intro h
    have hseparator := List.forall_mem_append.mp h.noSeparator
    have hchain := List.isChain_append.mp h.noHump
    refine ⟨⟨hfront, hseparator.1, hchain.1⟩, ⟨hback, hseparator.2, hchain.2.1⟩, ?_⟩
    have hc := hseparator.1 _ (List.getLast_mem hfront)
    have hd := hseparator.2 _ (List.head_mem hback)
    simp [isBreak, hc, hd, hchain.2.2 _ hlast _ hhead]
  · rintro ⟨h, h', hbreak⟩
    refine ⟨by simp [hfront], List.forall_mem_append.mpr ⟨h.noSeparator, h'.noSeparator⟩,
      List.isChain_append.mpr ⟨h.noHump, h'.noHump, ?_⟩⟩
    intro c hc d hd
    obtain rfl := Option.mem_unique hlast hc
    obtain rfl := Option.mem_unique hhead hd
    simp only [isBreak, Bool.or_eq_false_iff] at hbreak
    exact hbreak.2

/-- A piece does not fall apart. -/
theorem IsPiece.not_fallsApart (h : IsPiece (front ++ back)) (hfront : front ≠ [])
    (hback : back ≠ []) : ¬ FallsApart front back :=
  ((isPiece_append hfront hback).mp h).2.2

/-- A text can be divided in one way only into a piece and what it falls apart from. -/
theorem piece_unique {word' rest' : Text} (hword : IsPiece word) (hword' : IsPiece word')
    (hapart : FallsApart word rest) (hapart' : FallsApart word' rest')
    (h : word ++ rest = word' ++ rest') : word = word' := by
  rcases List.append_eq_append_iff.mp h with ⟨middle, rfl, rfl⟩ | ⟨middle, rfl, rfl⟩
  · by_cases hempty : middle = []
    · rw [hempty, List.append_nil]
    · rw [fallsApart_append_right hempty] at hapart
      exact absurd hapart (hword'.not_fallsApart hword.ne_nil hempty)
  · by_cases hempty : middle = []
    · rw [hempty, List.append_nil]
    · rw [fallsApart_append_right hempty] at hapart'
      exact absurd hapart' (hword.not_fallsApart hword'.ne_nil hempty)

/-! ## Maximal pieces -/

/-- A piece of a text that starts at position `pos`, and no longer part of the text around it is a
piece. -/
def IsMaximalPieceFrom (pos : Nat) (s : Text) (p : Passage) : Prop :=
  ∃ before after, s = before ++ p.text ++ after ∧ p.start = pos + before.length ∧ IsPiece p.text ∧
    ∀ front back, front <:+ before → back <+: after → IsPiece (front ++ p.text ++ back) →
      front = [] ∧ back = []

/-- A piece of a text that is part of no longer piece. -/
def IsMaximalPiece (s : Text) (p : Passage) : Prop := IsMaximalPieceFrom 0 s p

/-- A piece between two texts is maximal if the text falls apart on both sides of it. -/
theorem maximal_iff {before after : Text} (hword : IsPiece word) :
    (∀ front back, front <:+ before → back <+: after → IsPiece (front ++ word ++ back) →
      front = [] ∧ back = []) ↔ FallsApart before word ∧ FallsApart word after := by
  have hne := hword.ne_nil
  constructor
  · intro hmaximal
    constructor
    · by_contra hjoined
      cases before using List.reverseRecOn with
      | nil => exact hjoined (fallsApart_nil_left word)
      | append_singleton before c =>
        rw [fallsApart_append_left (List.cons_ne_nil c [])] at hjoined
        -- the last character in front could be added to the piece
        have hlonger : IsPiece ([c] ++ word ++ []) := by
          rw [List.append_nil, isPiece_append (List.cons_ne_nil c []) hne]
          refine ⟨⟨List.cons_ne_nil c [], ?_, List.isChain_singleton c⟩, hword, hjoined⟩
          intro d hd
          rw [List.mem_singleton.mp hd]
          by_contra hsep
          exact hjoined (fallsApart_of_separators_left (by simpa using hsep) word)
        exact absurd (hmaximal [c] [] (List.suffix_append before [c]) List.nil_prefix hlonger).1
          (List.cons_ne_nil c [])
    · by_contra hjoined
      cases after with
      | nil => exact hjoined (fallsApart_nil_right word)
      | cons d after =>
        rw [← List.singleton_append, fallsApart_append_right (List.cons_ne_nil d [])] at hjoined
        have hlonger : IsPiece ([] ++ word ++ [d]) := by
          rw [List.nil_append, isPiece_append hne (List.cons_ne_nil d [])]
          refine ⟨hword, ⟨List.cons_ne_nil d [], ?_, List.isChain_singleton d⟩, hjoined⟩
          intro c hc
          rw [List.mem_singleton.mp hc]
          by_contra hsep
          exact hjoined (fallsApart_of_separators_right (by simpa using hsep) word)
        exact absurd (hmaximal [] [d] List.nil_suffix (List.prefix_append [d] after) hlonger).2
          (List.cons_ne_nil d [])
  · rintro ⟨hbefore, hafter⟩ front back ⟨before', rfl⟩ ⟨after', rfl⟩ hlonger
    constructor
    · by_contra hfront
      rw [List.append_assoc] at hlonger
      refine hlonger.not_fallsApart hfront (by simp [hne]) ?_
      rwa [fallsApart_append_right hne, ← fallsApart_append_left hfront before']
    · by_contra hback
      refine hlonger.not_fallsApart (by simp [hne]) hback ?_
      rwa [fallsApart_append_left hne, ← fallsApart_append_right hback after']

theorem isMaximalPieceFrom_iff {pos : Nat} {p : Passage} : IsMaximalPieceFrom pos s p ↔
    ∃ before after, s = before ++ p.text ++ after ∧ p.start = pos + before.length ∧
      IsPiece p.text ∧ FallsApart before p.text ∧ FallsApart p.text after := by
  constructor
  · rintro ⟨before, after, hs, hstart, hpiece, hmaximal⟩
    exact ⟨before, after, hs, hstart, hpiece, (maximal_iff hpiece).mp hmaximal⟩
  · rintro ⟨before, after, hs, hstart, hpiece, hapart⟩
    exact ⟨before, after, hs, hstart, hpiece, (maximal_iff hpiece).mpr hapart⟩

/-! ## Reading from left to right -/

/-- The passages are what a text that starts at a position is divided into, from left to right:
separators are passed, and a piece ends where the text falls apart. -/
inductive Divides : Nat → Text → List Passage → Prop where
  | nil (pos : Nat) : Divides pos [] []
  | separator (pos : Nat) {c : Char} (hc : isSeparator c = true) {s : Text} {passages : List Passage}
      (hlater : Divides (pos + 1) s passages) : Divides pos (c :: s) passages
  | piece (pos : Nat) {word rest : Text} (hword : IsPiece word) (hapart : FallsApart word rest)
      {passages : List Passage} (hlater : Divides (pos + word.length) rest passages) :
      Divides pos (word ++ rest) (⟨pos, word⟩ :: passages)

/-- A text begins with a piece behind which it falls apart, unless it begins with a separator. -/
theorem exists_first_piece {c : Char} (hc : isSeparator c = false) (s : Text) :
    ∃ word rest, c :: s = word ++ rest ∧ IsPiece word ∧ FallsApart word rest := by
  have hsingle : IsPiece [c] := ⟨List.cons_ne_nil c [], by simpa using hc, List.isChain_singleton c⟩
  induction s generalizing c with
  | nil => exact ⟨[c], [], rfl, hsingle, fallsApart_nil_right [c]⟩
  | cons d s ih =>
    cases hbreak : isBreak c d with
    | true => exact ⟨[c], d :: s, rfl, hsingle, by simpa [FallsApart] using hbreak⟩
    | false =>
      have hjoined := hbreak
      simp only [isBreak, Bool.or_eq_false_iff] at hbreak
      have hd := hbreak.1.2
      rcases ih hd ⟨List.cons_ne_nil d [], by simpa using hd, List.isChain_singleton d⟩ with
        ⟨word, rest, hs, hword, hapart⟩
      have hhead : word.head? = some d := by
        have hfront : (word ++ rest).head? = word.head? :=
          List.head?_append_of_ne_nil word hword.ne_nil
        rw [← hfront, ← hs]
        rfl
      refine ⟨c :: word, rest, by rw [hs, List.cons_append], ?_, ?_⟩
      · rw [← List.singleton_append, isPiece_append (List.cons_ne_nil c []) hword.ne_nil]
        exact ⟨hsingle, hword, by simp [FallsApart, hhead, hjoined]⟩
      · rwa [← List.singleton_append, fallsApart_append_left hword.ne_nil]

/-- Every text can be divided. -/
theorem exists_divides (pos : Nat) (s : Text) : ∃ passages, Divides pos s passages := by
  induction hlength : s.length using Nat.strongRecOn generalizing pos s with
  | _ n ih =>
    cases s with
    | nil => exact ⟨[], Divides.nil pos⟩
    | cons c s =>
      cases hc : isSeparator c with
      | true =>
        rcases ih s.length (by simp [← hlength]) (pos + 1) s rfl with ⟨passages, hlater⟩
        exact ⟨passages, Divides.separator pos hc hlater⟩
      | false =>
        rcases exists_first_piece hc s with ⟨word, rest, hs, hword, hapart⟩
        have hpos := List.length_pos_iff.mpr hword.ne_nil
        have hshorter : rest.length < n := by
          rw [← hlength, hs, List.length_append]
          omega
        rcases ih rest.length hshorter (pos + word.length) rest rfl with ⟨passages, hlater⟩
        rw [hs]
        exact ⟨⟨pos, word⟩ :: passages, Divides.piece pos hword hapart hlater⟩

namespace Divides

variable {pos : Nat} {passages : List Passage} {p : Passage}

/-- What a text is divided into are its words. -/
theorem map_text (h : Divides pos s passages) : passages.map (·.text) = contentWords s := by
  induction h with
  | nil => rfl
  | separator _ hc _ ih => rw [contentWords_cons_of_isSeparator hc, ih]
  | piece _ hword hapart _ ih =>
    rw [contentWords_append hapart, contentWords_of_isPiece hword, List.map_cons, ih,
      List.singleton_append]

theorem pos_le (h : Divides pos s passages) : ∀ p ∈ passages, pos ≤ p.start := by
  induction h with
  | nil => simp
  | separator _ _ _ ih => exact fun p hp => Nat.le_of_succ_le (ih p hp)
  | piece _ _ _ _ ih =>
    refine List.forall_mem_cons.mpr ⟨Nat.le_refl _, ?_⟩
    exact fun p hp => Nat.le_trans (Nat.le_add_right _ _) (ih p hp)

/-- What a text is divided into is in order and does not overlap. -/
theorem pairwise (h : Divides pos s passages) :
    passages.Pairwise fun p q => p.stop ≤ q.start := by
  induction h with
  | nil => exact List.Pairwise.nil
  | separator _ _ _ ih => exact ih
  | piece _ _ _ hlater ih => exact List.pairwise_cons.mpr ⟨hlater.pos_le, ih⟩

/-- A separator in front of a text is in none of its maximal pieces. -/
theorem isMaximalPieceFrom_cons {c : Char} (hc : isSeparator c = true) :
    IsMaximalPieceFrom pos (c :: s) p ↔ IsMaximalPieceFrom (pos + 1) s p := by
  rw [isMaximalPieceFrom_iff, isMaximalPieceFrom_iff]
  constructor
  · rintro ⟨before, after, hs, hstart, hpiece, hbefore, hafter⟩
    cases before with
    | nil =>
      -- the piece would begin with the separator
      rcases List.exists_cons_of_ne_nil hpiece.ne_nil with ⟨d, word, hword⟩
      rw [hword] at hs hpiece
      obtain rfl : c = d := (List.cons.inj hs).1
      have hd := hpiece.noSeparator c List.mem_cons_self
      rw [hc] at hd
      exact Bool.noConfusion hd
    | cons d before =>
      simp only [List.cons_append, List.cons.injEq] at hs
      refine ⟨before, after, hs.2, ?_, hpiece, hbefore.of_cons, hafter⟩
      rw [hstart, List.length_cons]
      omega
  · rintro ⟨before, after, rfl, hstart, hpiece, hbefore, hafter⟩
    refine ⟨c :: before, after, rfl, ?_, hpiece, ?_, hafter⟩
    · rw [hstart, List.length_cons]
      omega
    · by_cases hempty : before = []
      · rw [hempty]
        exact fallsApart_of_separators_left (by simpa using hc) _
      · rwa [← List.singleton_append, fallsApart_append_left hempty]

/-- The maximal pieces of a text that begins with a piece behind which it falls apart. -/
theorem isMaximalPieceFrom_append (hword : IsPiece word) (hapart : FallsApart word rest) :
    IsMaximalPieceFrom pos (word ++ rest) p ↔
      p = ⟨pos, word⟩ ∨ IsMaximalPieceFrom (pos + word.length) rest p := by
  rw [isMaximalPieceFrom_iff, isMaximalPieceFrom_iff]
  constructor
  · rintro ⟨before, after, hs, hstart, hpiece, hbefore, hafter⟩
    rw [List.append_assoc] at hs
    have hfront : before <+: word ++ rest := hs ▸ List.prefix_append before _
    by_cases hinside : before.length < word.length
    · -- `p` begins inside of the first piece, so it begins with it and ends with it
      left
      rcases List.prefix_of_prefix_length_le hfront (List.prefix_append word rest)
        (Nat.le_of_lt hinside) with ⟨middle, rfl⟩
      have hmiddle : middle ≠ [] := by
        rintro rfl
        simp at hinside
      have hrest : middle ++ rest = p.text ++ after := by
        rw [List.append_assoc] at hs
        exact List.append_cancel_left hs
      obtain rfl : before = [] := by
        by_contra hempty
        refine hword.not_fallsApart hempty hmiddle ?_
        rwa [← fallsApart_append_right hmiddle rest, hrest, fallsApart_append_right hpiece.ne_nil]
      have htext := piece_unique hpiece hword hafter hapart hrest.symm
      cases p
      simp_all
    · -- `p` begins behind the first piece
      right
      rcases List.prefix_of_prefix_length_le (List.prefix_append word rest) hfront
        (Nat.le_of_not_lt hinside) with ⟨middle, rfl⟩
      rw [List.append_assoc] at hs
      refine ⟨middle, after, ?_, ?_, hpiece, ?_, hafter⟩
      · rw [List.append_cancel_left hs, List.append_assoc]
      · rw [hstart, List.length_append]
        omega
      · by_cases hempty : middle = []
        · rw [hempty]
          exact fallsApart_nil_left _
        · rwa [fallsApart_append_left hempty] at hbefore
  · rintro (rfl | ⟨before, after, rfl, hstart, hpiece, hbefore, hafter⟩)
    · exact ⟨[], rest, rfl, rfl, hword, fallsApart_nil_left _, hapart⟩
    · refine ⟨word ++ before, after, by simp only [List.append_assoc], ?_, hpiece, ?_, hafter⟩
      · rw [hstart, List.length_append]
        omega
      · by_cases hempty : before = []
        · rw [hempty, List.append_nil]
          rw [hempty, List.nil_append, fallsApart_append_right hpiece.ne_nil] at hapart
          exact hapart
        · rwa [fallsApart_append_left hempty]

/-- A text is divided into its maximal pieces. -/
theorem mem_iff (h : Divides pos s passages) : p ∈ passages ↔ IsMaximalPieceFrom pos s p := by
  induction h with
  | nil pos =>
    rw [isMaximalPieceFrom_iff]
    constructor
    · intro hp
      simp at hp
    · rintro ⟨before, after, hs, -, hpiece, -⟩
      simp [hpiece.ne_nil] at hs
  | separator pos hc _ ih => rw [isMaximalPieceFrom_cons hc, ih]
  | piece pos hword hapart _ ih => rw [isMaximalPieceFrom_append hword hapart, List.mem_cons, ih]

end Divides

/-! ## Two passes -/

/-- The name with a blank in every hump. -/
def divideHumps : Text → Text
  | [] => []
  | c :: s => c :: if s.head?.any (isHump c) then ' ' :: divideHumps s else divideHumps s

end Naming

/-- The pieces between the runs of characters of a class, empty ones at the ends included. -/
def Text.splitRuns (p : Char → Bool) : Text → List Text
  | [] => [[]]
  | c :: s =>
    if p c then
      if s.head?.any p then splitRuns p s else [] :: splitRuns p s
    else match splitRuns p s with
      | [] => [[c]]
      | word :: rest => (c :: word) :: rest

/-- The first piece is what is in front of the first character of the class. -/
theorem Text.exists_splitRuns (p : Char → Bool) (s : Text) :
    ∃ rest, splitRuns p s = s.takeWhile (fun c => !p c) :: rest := by
  induction s with
  | nil => exact ⟨[], rfl⟩
  | cons c s ih =>
    rcases ih with ⟨rest, hrest⟩
    by_cases hc : p c = true
    · cases s with
      | nil => exact ⟨[[]], by simp [splitRuns, hc]⟩
      | cons d s =>
        by_cases hd : p d = true
        · refine ⟨rest, ?_⟩
          rw [splitRuns, if_pos hc, if_pos (by simpa using hd), hrest]
          simp [hc, hd]
        · refine ⟨splitRuns p (d :: s), ?_⟩
          rw [splitRuns, if_pos hc, if_neg (by simpa using hd)]
          simp [hc]
    · exact ⟨rest, by simp [splitRuns, hc, hrest]⟩

namespace Naming

open Unicode

variable {s : Text}

/-- A name without humps falls apart at its separators only. -/
theorem filter_splitRuns (h : s.IsChain fun c d => isHump c d = false) :
    (splitRuns isSeparator s).filter (· ≠ []) = contentWords s := by
  induction s with
  | nil => rfl
  | cons c s ih =>
    have hlater := ih h.tail
    cases hc : isSeparator c with
    | true =>
      rw [contentWords_cons_of_isSeparator hc, ← hlater, splitRuns, if_pos hc]
      split
      · rfl
      · rw [List.filter_cons_of_neg (by simp)]
    | false =>
      rcases exists_splitRuns isSeparator s with ⟨rest, hrest⟩
      have hsplit : splitRuns isSeparator (c :: s) =
          (c :: s.takeWhile fun d => !isSeparator d) :: rest := by
        simp [splitRuns, hc, hrest]
      rw [hrest] at hlater
      rw [hsplit, List.filter_cons_of_pos (by simp)]
      cases s with
      | nil =>
        obtain rfl : [] = rest := by simpa [splitRuns] using hrest
        rw [contentWords_cons_of_isBreak hc (by simp)]
        rfl
      | cons d s =>
        cases hd : isSeparator d with
        | true =>
          -- the piece that begins behind `c` is empty
          have hempty : (d :: s).takeWhile (fun e => !isSeparator e) = [] := by simp [hd]
          rw [hempty, List.filter_cons_of_neg (by simp)] at hlater
          rw [hempty, hlater, contentWords_cons_of_isBreak hc
            (by simpa using isBreak_of_isSeparator_right hd c)]
        | false =>
          have hjoined : isBreak c d = false := by
            simp [isBreak, hc, hd, (List.isChain_cons_cons.mp h).1]
          rw [List.filter_cons_of_pos (by simp [hd])] at hlater
          rw [contentWords_cons_of_not_isBreak hjoined hlater.symm]

theorem head?_divideHumps (s : Text) : (divideHumps s).head? = s.head? := by
  cases s <;> rfl

theorem isHump_blank_right (c : Char) : isHump c ' ' = false := by
  rw [isHump, Bool.and_eq_false_iff]
  exact Or.inr (by decide)

theorem isHump_blank_left (d : Char) : isHump ' ' d = false := by
  rw [isHump, Bool.and_eq_false_iff]
  exact Or.inl (by decide)

/-- No hump is left. -/
theorem isChain_divideHumps (s : Text) :
    (divideHumps s).IsChain fun c d => isHump c d = false := by
  induction s with
  | nil => exact List.IsChain.nil
  | cons c s ih =>
    rw [divideHumps]
    split
    · exact List.isChain_cons_cons.mpr ⟨isHump_blank_right c,
        List.isChain_cons.mpr ⟨fun d _ => isHump_blank_left d, ih⟩⟩
    · rename_i hnone
      rw [List.isChain_cons, head?_divideHumps]
      refine ⟨?_, ih⟩
      intro d hd
      rw [Option.mem_def.mp hd] at hnone
      simpa using hnone

/-- The blanks make no difference to the words. -/
theorem contentWords_divideHumps (s : Text) : contentWords (divideHumps s) = contentWords s := by
  have hblank : isSeparator ' ' = true := by decide
  induction s with
  | nil => rfl
  | cons c s ih =>
    cases hc : isSeparator c with
    | true =>
      rw [divideHumps, contentWords_cons_of_isSeparator hc, contentWords_cons_of_isSeparator hc, ← ih]
      split
      · exact contentWords_cons_of_isSeparator hblank _
      · rfl
    | false =>
      rw [divideHumps]
      split
      · -- in a hump, the name falls apart already
        rename_i hhump
        have hapart : ∀ d ∈ s.head?, isBreak c d = true := by
          intro d hd
          rw [Option.mem_def.mp hd] at hhump
          exact isBreak_of_isHump (by simpa using hhump)
        rw [contentWords_cons_of_isBreak hc (by simpa using isBreak_of_isSeparator_right hblank c),
          contentWords_cons_of_isSeparator hblank, ih, contentWords_cons_of_isBreak hc hapart]
      · rename_i hnone
        by_cases hapart : ∀ d ∈ s.head?, isBreak c d = true
        · rw [contentWords_cons_of_isBreak hc hapart,
            contentWords_cons_of_isBreak hc (by rwa [head?_divideHumps]), ih]
        · -- the first word of what follows goes on in front
          cases s with
          | nil => simp at hapart
          | cons d s =>
            have hjoined : isBreak c d = false := by simpa using hapart
            have hd : isSeparator d = false := by
              simp only [isBreak, Bool.or_eq_false_iff] at hjoined
              exact hjoined.1.2
            rcases exists_contentWords_cons hd s with ⟨word, rest, hwords⟩
            rw [contentWords_cons_of_not_isBreak hjoined hwords]
            rw [hwords, divideHumps] at ih
            rw [divideHumps, contentWords_cons_of_not_isBreak hjoined ih]

/-- Putting a blank into every hump and splitting at separators gives the words, apart from empty
pieces. -/
theorem filter_splitRuns_divideHumps (s : Text) :
    (splitRuns isSeparator (divideHumps s)).filter (· ≠ []) = contentWords s := by
  rw [filter_splitRuns (isChain_divideHumps s), contentWords_divideHumps]

example : splitRuns isSeparator (divideHumps "RTG-genTwo  x_") =
    (["RTG", "gen", "Two", "x", ""] : List Text) := by
  decide +kernel

/-! ## Joined words -/

/-- The text is not empty, has no separators but single hyphens, and these only inside. -/
structure IsHyphenated (s : Text) : Prop where
  ne_nil : s ≠ []
  onlyHyphens : ∀ c ∈ s, isSeparator c = true → c = '-'
  noneInFront : s.head? ≠ some '-'
  noneBehind : s.getLast? ≠ some '-'
  noDouble : s.IsChain fun c d => ¬ (c = '-' ∧ d = '-')

theorem IsSmallWord.isHyphenated {word : Text} (h : IsSmallWord word) : IsHyphenated word := by
  have hhyphen : '-' ∉ word := by
    intro hmem
    exact absurd (h.noSeparator _ hmem) (by decide)
  refine ⟨h.ne_nil, ?_, ?_, ?_, ?_⟩
  · intro c hc hsep
    rw [h.noSeparator c hc] at hsep
    exact Bool.noConfusion hsep
  · exact fun hhead => hhyphen (List.mem_of_head? hhead)
  · exact fun hlast => hhyphen (List.mem_of_getLast? hlast)
  · apply List.Pairwise.isChain
    rw [List.pairwise_iff_forall_sublist]
    rintro c d hsub ⟨rfl, -⟩
    exact hhyphen (hsub.subset List.mem_cons_self)

theorem IsHyphenated.append {word rest : Text} (h : IsHyphenated word) (h' : IsHyphenated rest) :
    IsHyphenated (word ++ ('-' :: rest)) := by
  refine ⟨by simp [h.ne_nil], ?_, ?_, ?_, ?_⟩
  · intro c hc hsep
    rcases List.mem_append.mp hc with hc | hc
    · exact h.onlyHyphens c hc hsep
    · rcases List.mem_cons.mp hc with rfl | hc
      · rfl
      · exact h'.onlyHyphens c hc hsep
  · rw [List.head?_append_of_ne_nil word h.ne_nil]
    exact h.noneInFront
  · rw [List.getLast?_append_of_ne_nil word (List.cons_ne_nil _ _), ← List.singleton_append,
      List.getLast?_append_of_ne_nil _ h'.ne_nil]
    exact h'.noneBehind
  · refine h.noDouble.append (List.isChain_cons.mpr ⟨?_, h'.noDouble⟩) ?_
    · rintro d hd ⟨-, rfl⟩
      exact h'.noneInFront hd
    · rintro c hc d - ⟨rfl, -⟩
      exact h.noneBehind hc

theorem isHyphenated_join {words : List Text} (hne : words ≠ [])
    (h : ∀ word ∈ words, IsSmallWord word) : IsHyphenated (join "-" words) :=
  join_induction hne (fun word hword => (h word hword).isHyphenated) fun _ _ => IsHyphenated.append

/-- What counts of a name is the name without blanks at its ends and then without sigils in front.
The form of the name in source text has the maximal pieces of that without separators and humps, in
order, each in lowercase, joined by hyphens behind a sigil; it is empty if there are none. These
pieces are also what two passes give, of which the first one puts a blank into every hump, and the
second one splits at separators and drops what is empty. A form that is not empty has no white space,
no underscore, and behind the sigil no hyphen at either end and no two hyphens in a row. -/
theorem contentName_maximalPieces (s : Text) :
    ∃ pieces : List Passage,
      (∀ p, p ∈ pieces ↔ IsMaximalPiece ((s.trim isBlank).dropWhile (· == Word.sigil)) p) ∧
      pieces.Pairwise (fun p q => p.stop ≤ q.start) ∧
      pieces.map (·.text) = (splitRuns isSeparator
        (divideHumps ((s.trim isBlank).dropWhile (· == Word.sigil)))).filter (· ≠ []) ∧
      (pieces = [] → contentName s = []) ∧
      (pieces ≠ [] → contentName s = Word.sigil :: join "-" (pieces.map fun p => lower p.text)) ∧
      (contentName s ≠ [] → (∀ c ∈ contentName s, isWhiteSpace c = false ∧ c ≠ '_') ∧
        ∃ body, contentName s = Word.sigil :: body ∧ body ≠ [] ∧ body.head? ≠ some '-' ∧
          body.getLast? ≠ some '-' ∧ ¬ ['-', '-'] <:+: body) := by
  rcases exists_divides 0 (contentCore s) with ⟨pieces, hpieces⟩
  have hwords : (contentWords (contentCore s)).map lower = pieces.map fun p => lower p.text := by
    rw [← hpieces.map_text, List.map_map]
    rfl
  refine ⟨pieces, fun p => hpieces.mem_iff, hpieces.pairwise, ?_, ?_, ?_, ?_⟩
  · rw [hpieces.map_text]
    exact (filter_splitRuns_divideHumps (contentCore s)).symm
  · rintro rfl
    have hnil : contentWords (contentCore s) = [] := hpieces.map_text.symm
    rw [contentName, hnil]
  · intro hne
    exact contentName_of_map_lower hwords (by simpa using hne)
  · intro hne
    rcases exists_words_of_contentName_ne_nil hne with ⟨words, hwordsne, -, hname, hsmall⟩
    have hbody := isHyphenated_join hwordsne hsmall
    constructor
    · rw [hname]
      intro c hc
      rcases List.mem_cons.mp hc with rfl | hc
      · decide
      · constructor
        · by_contra hspace
          rw [Bool.not_eq_false] at hspace
          obtain rfl := hbody.onlyHyphens c hc (by simp [isSeparator, hspace])
          exact absurd hspace (by decide)
        · rintro rfl
          exact absurd (hbody.onlyHyphens '_' hc (by decide)) (by decide)
    · refine ⟨join "-" words, hname, hbody.ne_nil, hbody.noneInFront, hbody.noneBehind, ?_⟩
      intro hdouble
      have hpair := List.IsChain.infix hbody.noDouble hdouble
      exact (List.isChain_cons_cons.mp hpair).1 ⟨rfl, rfl⟩

end Naming

end MlogHighlight
