import MlogHighlight.Naming
import MlogHighlight.Proofs.Preparation
import MlogHighlight.Proofs.Run

/-!
# The words of a content name

A content name falls apart wherever a word cannot go on: at separators and at humps. Main facts:

* `contentWords_append`: the words of two texts one behind the other, where no word goes on from the
  first into the second;
* `contentWords_of_isPiece`, `isPiece_of_mem_contentWords`: a text that does not fall apart is a
  word, and words do not;
* `flatten_contentWords`: nothing but separators is lost;
* `contentWords_contentCore`: blanks, sigils and separators around a name make no difference.
-/

namespace MlogHighlight

open Text

namespace Naming

/-! ## Where a name falls apart -/

/-- Can no word hold these two neighbours? -/
def isBreak (c d : Char) : Bool := isSeparator c || isSeparator d || isHump c d

theorem isBreak_of_isSeparator_left {c : Char} (hc : isSeparator c = true) (d : Char) :
    isBreak c d = true := by
  simp [isBreak, hc]

theorem isBreak_of_isSeparator_right {d : Char} (hd : isSeparator d = true) (c : Char) :
    isBreak c d = true := by
  simp [isBreak, hd]

theorem isBreak_of_isHump {c d : Char} (h : isHump c d = true) : isBreak c d = true := by
  simp [isBreak, h]

/-- No word goes on from the first text into the second. -/
def FallsApart (front back : Text) : Prop :=
  ∀ c ∈ front.getLast?, ∀ d ∈ back.head?, isBreak c d = true

theorem fallsApart_of_separators_left {seps : Text} (h : seps.all isSeparator = true)
    (back : Text) : FallsApart seps back := by
  intro c hc d hd
  exact isBreak_of_isSeparator_left (List.all_eq_true.mp h c (List.mem_of_getLast? hc)) d

theorem fallsApart_of_separators_right {seps : Text} (h : seps.all isSeparator = true)
    (front : Text) : FallsApart front seps := by
  intro c hc d hd
  exact isBreak_of_isSeparator_right (List.all_eq_true.mp h d (List.mem_of_head? hd)) c

theorem FallsApart.of_cons {c : Char} {front back : Text} (h : FallsApart (c :: front) back) :
    FallsApart front back := by
  intro d hd
  apply h d
  cases front with
  | nil => simp at hd
  | cons e front => simpa using hd

/-! ## The words -/

theorem contentWords_cons_of_isSeparator {c : Char} (hc : isSeparator c = true) (s : Text) :
    contentWords (c :: s) = contentWords s := by
  simp [contentWords, hc]

/-- The first character is a word of its own if the name falls apart behind it. -/
theorem contentWords_cons_of_isBreak {c : Char} (hc : isSeparator c = false) {s : Text}
    (h : ∀ d ∈ s.head?, isBreak c d = true) : contentWords (c :: s) = [c] :: contentWords s := by
  rw [contentWords.eq_def]
  cases s with
  | nil => simp [hc]
  | cons d s =>
    have hbreak : (isSeparator d || isHump c d) = true := by
      simpa [isBreak, hc] using h d rfl
    cases hlater : contentWords (d :: s) with
    | nil => simp [hc, hlater]
    | cons word rest => simp only [hc, hlater, hbreak, Bool.false_eq_true, if_false, if_true]

/-- The first character belongs to the first word of what follows it if nothing falls apart there. -/
theorem contentWords_cons_of_not_isBreak {c d : Char} {s : Text} (h : isBreak c d = false)
    {word : Text} {rest : List Text} (hlater : contentWords (d :: s) = word :: rest) :
    contentWords (c :: d :: s) = (c :: word) :: rest := by
  simp only [isBreak, Bool.or_eq_false_iff] at h
  rw [contentWords.eq_def]
  simp [h, hlater]

/-- The first word begins with the first character, unless that is a separator. -/
theorem exists_contentWords_cons {c : Char} (hc : isSeparator c = false) (s : Text) :
    ∃ word rest, contentWords (c :: s) = (c :: word) :: rest := by
  rw [contentWords.eq_def]
  simp only [hc, Bool.false_eq_true, if_false]
  split
  · split
    · exact ⟨_, _, rfl⟩
    · exact ⟨_, _, rfl⟩
  · exact ⟨_, _, rfl⟩

/-- The words of two texts one behind the other are those of the first text and then those of the
second, if no word goes on from one into the other. -/
theorem contentWords_append {front back : Text} (h : FallsApart front back) :
    contentWords (front ++ back) = contentWords front ++ contentWords back := by
  induction front with
  | nil => rfl
  | cons c front ih =>
    have hlater := ih h.of_cons
    by_cases hc : isSeparator c = true
    · rw [List.cons_append, contentWords_cons_of_isSeparator hc,
        contentWords_cons_of_isSeparator hc, hlater]
    rw [Bool.not_eq_true] at hc
    cases front with
    | nil =>
      rw [List.cons_append, List.nil_append, contentWords_cons_of_isBreak hc (h c rfl),
        contentWords_cons_of_isBreak hc (by simp)]
      rfl
    | cons d front =>
      cases hbreak : isBreak c d with
      | true =>
        rw [List.cons_append, contentWords_cons_of_isBreak hc (by simpa using hbreak), hlater,
          contentWords_cons_of_isBreak hc (by simpa using hbreak)]
        rfl
      | false =>
        have hd : isSeparator d = false := by
          simp only [isBreak, Bool.or_eq_false_iff] at hbreak
          exact hbreak.1.2
        rcases exists_contentWords_cons hd front with ⟨word, rest, hwords⟩
        rw [hwords, List.cons_append] at hlater
        rw [List.cons_append, List.cons_append, contentWords_cons_of_not_isBreak hbreak hlater,
          contentWords_cons_of_not_isBreak hbreak hwords]
        rfl

/-- Separators are no words. -/
theorem contentWords_of_separators {seps : Text} (h : seps.all isSeparator = true) :
    contentWords seps = [] := by
  induction seps with
  | nil => rfl
  | cons c seps ih =>
    rw [List.all_cons, Bool.and_eq_true] at h
    rw [contentWords_cons_of_isSeparator h.1, ih h.2]

/-- Separators around a name make no difference. -/
theorem contentWords_between {seps seps' : Text} (h : seps.all isSeparator = true)
    (h' : seps'.all isSeparator = true) (name : Text) :
    contentWords (seps ++ (name ++ seps')) = contentWords name := by
  rw [contentWords_append (fallsApart_of_separators_left h _), contentWords_of_separators h,
    contentWords_append (fallsApart_of_separators_right h' _), contentWords_of_separators h',
    List.nil_append, List.append_nil]

/-- A text in which nothing falls apart: it has no separators and no humps. -/
structure IsPiece (s : Text) : Prop where
  ne_nil : s ≠ []
  noSeparator : ∀ c ∈ s, isSeparator c = false
  noHump : s.IsChain fun c d => isHump c d = false

theorem IsPiece.of_cons {c d : Char} {s : Text} (h : IsPiece (c :: d :: s)) : IsPiece (d :: s) where
  ne_nil := List.cons_ne_nil d s
  noSeparator := fun e he => h.noSeparator e (List.mem_cons_of_mem c he)
  noHump := (List.isChain_cons_cons.mp h.noHump).2

theorem IsPiece.isBreak_eq_false {c d : Char} {s : Text} (h : IsPiece (c :: d :: s)) :
    isBreak c d = false := by
  simp [isBreak, h.noSeparator c (by simp), h.noSeparator d (by simp),
    (List.isChain_cons_cons.mp h.noHump).1]

/-- A piece is one word. -/
theorem contentWords_of_isPiece {s : Text} (h : IsPiece s) : contentWords s = [s] := by
  induction s with
  | nil => exact absurd rfl h.ne_nil
  | cons c s ih =>
    cases s with
    | nil => simp [contentWords, h.noSeparator c (by simp)]
    | cons d s => exact contentWords_cons_of_not_isBreak h.isBreak_eq_false (ih h.of_cons)

/-- A word does not fall apart. -/
theorem isPiece_of_mem_contentWords {s word : Text} (h : word ∈ contentWords s) : IsPiece word := by
  have hsingle : ∀ {c : Char}, isSeparator c = false → IsPiece [c] := fun {c} hc =>
    ⟨List.cons_ne_nil c [], by simpa using hc, List.isChain_singleton c⟩
  induction s generalizing word with
  | nil => simp [contentWords] at h
  | cons c s ih =>
    by_cases hc : isSeparator c = true
    · rw [contentWords_cons_of_isSeparator hc] at h
      exact ih h
    rw [Bool.not_eq_true] at hc
    cases s with
    | nil =>
      rw [contentWords_cons_of_isBreak hc (by simp)] at h
      rw [List.mem_singleton.mp h]
      exact hsingle hc
    | cons d s =>
      cases hbreak : isBreak c d with
      | true =>
        rw [contentWords_cons_of_isBreak hc (by simpa using hbreak)] at h
        rcases List.mem_cons.mp h with rfl | h
        · exact hsingle hc
        · exact ih h
      | false =>
        simp only [isBreak, Bool.or_eq_false_iff] at hbreak
        rcases exists_contentWords_cons hbreak.1.2 s with ⟨first, rest, hwords⟩
        rw [contentWords_cons_of_not_isBreak (by simp [isBreak, hbreak]) hwords] at h
        rw [hwords] at ih
        rcases List.mem_cons.mp h with rfl | h
        · have hfirst := ih List.mem_cons_self
          refine ⟨List.cons_ne_nil _ _, List.forall_mem_cons.mpr ⟨hc, hfirst.noSeparator⟩, ?_⟩
          exact List.isChain_cons_cons.mpr ⟨hbreak.2, hfirst.noHump⟩
        · exact ih (List.mem_cons_of_mem _ h)

/-- The words have all characters of a name that are no separators, in order. -/
theorem flatten_contentWords (s : Text) :
    (contentWords s).flatten = s.filter fun c => !isSeparator c := by
  induction s with
  | nil => rfl
  | cons c s ih =>
    by_cases hc : isSeparator c = true
    · rw [contentWords_cons_of_isSeparator hc, ih, List.filter_cons_of_neg (by simp [hc])]
    rw [Bool.not_eq_true] at hc
    rw [List.filter_cons_of_pos (by simp [hc]), ← ih]
    cases s with
    | nil => rw [contentWords_cons_of_isBreak hc (by simp), List.flatten_cons, List.singleton_append]
    | cons d s =>
      cases hbreak : isBreak c d with
      | true =>
        rw [contentWords_cons_of_isBreak hc (by simpa using hbreak), List.flatten_cons,
          List.singleton_append]
      | false =>
        have hd : isSeparator d = false := by
          simp only [isBreak, Bool.or_eq_false_iff] at hbreak
          exact hbreak.1.2
        rcases exists_contentWords_cons hd s with ⟨word, rest, hwords⟩
        rw [contentWords_cons_of_not_isBreak hbreak hwords, hwords, List.flatten_cons,
          List.flatten_cons, List.cons_append]

theorem isChain_of_not_isUpper {c : Char} {s : Text} (h : ∀ d ∈ s, Unicode.isUpper d = false) :
    (c :: s).IsChain fun c d => isHump c d = false := by
  induction s generalizing c with
  | nil => exact List.isChain_singleton c
  | cons d s ih =>
    rw [List.isChain_cons_cons]
    refine ⟨?_, ih fun e he => h e (List.mem_cons_of_mem d he)⟩
    rw [isHump, h d List.mem_cons_self, Bool.and_false]

/-! ## What counts of a name -/

/-- Of what stands in front of a name, separators are left. -/
theorem separators_front {blanks seps : Text} (hblanks : blanks.all Unicode.isBlank = true)
    (hseps : seps.all isSeparator = true) (sigils : Nat) :
    (((blanks ++ (List.replicate sigils Word.sigil ++ seps)).dropWhile Unicode.isBlank).dropWhile
      (· == Word.sigil)).all isSeparator = true := by
  rw [List.dropWhile_append_of_pos (List.all_eq_true.mp hblanks)]
  cases sigils with
  | zero => exact all_dropWhile (all_dropWhile hseps)
  | succ n =>
    -- the first sigil is no blank, so all sigils and separators are still there to be stripped
    have hsigil : Stops Unicode.isBlank (List.replicate (n + 1) Word.sigil ++ seps) := by
      rw [List.replicate_succ, List.cons_append, stops_cons]
      decide
    rw [dropWhile_of_stops hsigil, List.dropWhile_append_of_pos (by simp)]
    exact all_dropWhile hseps

/-- Blanks around a name make no difference, nor do sigils in front of it and separators between
all these. -/
theorem contentWords_contentCore {blanks blanks' seps seps' name : Text}
    (hblanks : blanks.all Unicode.isBlank = true) (hblanks' : blanks'.all Unicode.isBlank = true)
    (hseps : seps.all isSeparator = true) (hseps' : seps'.all isSeparator = true)
    (sigils : Nat) (hne : name ≠ []) (hhead : Stops Unicode.isBlank name)
    (hsigil : Stops (· == Word.sigil) name) (hlast : Stops Unicode.isBlank name.reverse) :
    contentWords (contentCore (blanks ++ (List.replicate sigils Word.sigil ++ seps) ++
      (name ++ (seps' ++ blanks')))) = contentWords name := by
  have hback : ((seps' ++ blanks').trimEnd Unicode.isBlank).all isSeparator = true := by
    rw [trimEnd_append_of_all hblanks']
    exact all_trimEnd hseps'
  rw [contentCore, trim_append_of_stops hne hhead hlast,
    dropWhile_append_of_stops ((stops_append_of_ne_nil hne _).mpr hsigil),
    contentWords_between (separators_front hblanks hseps sigils) hback]

/-- The form in source text, from the words. -/
theorem contentName_of_map_lower {s : Text} {words : List Text}
    (h : (contentWords (contentCore s)).map Unicode.lower = words) (hne : words ≠ []) :
    contentName s = Word.sigil :: Text.join "-" words := by
  subst h
  unfold contentName
  split
  · rename_i hnil
    simp [hnil] at hne
  · rfl

end Naming

end MlogHighlight
