import MlogHighlight.Proofs.ContentName

/-!
# The spellings of a content name

A content name can be spelled in many ways: its words may have a capital in front, may be divided by
separators or by the capitals alone, and the whole may stand behind sigils and between blanks. The
form in source text is the same for all of them. Main facts:

* `Unicode.lower_of_ascii`: the lowercase of an ASCII text;
* `Naming.Spells.map_lower_contentWords`: the words of a spelling;
* `Naming.contentName_of_spells`: the form of a spelling in source text.
-/

namespace MlogHighlight

open Text

namespace Unicode

/-! ## ASCII -/

/-- No letter or digit of ASCII is behind the `z`. -/
theorem toNat_lt_of_isAlphanum {c : Char} (h : c.isAlphanum = true) : c.toNat < 128 := by
  have hz : c.val ≤ 'z'.val := by
    rcases Bool.or_eq_true_iff.mp h with hletter | hdigit
    · rcases Bool.or_eq_true_iff.mp hletter with hupper | hlower
      · have hlast : c.val ≤ 'Z'.val := (of_decide_eq_true hupper).2
        exact UInt32.le_trans hlast (by decide)
      · exact of_decide_eq_true (Bool.and_eq_true_iff.mp hlower).2
    · have hlast : c.val ≤ '9'.val := of_decide_eq_true (Bool.and_eq_true_iff.mp hdigit).2
      exact UInt32.le_trans hlast (by decide)
  exact Nat.lt_of_le_of_lt (UInt32.le_iff_toNat_le.mp hz) (by decide)

theorem lowerChar_of_ascii : ∀ c : Char, c.toNat < 128 → lowerChar c = c.toLower :=
  forall_ascii (by decide +kernel)

theorem lowerAfter_of_ascii {s : Text} (h : ∀ c ∈ s, c.toNat < 128) (before : Text) :
    lowerAfter before s = s.map Char.toLower := by
  induction s generalizing before with
  | nil => rfl
  | cons c s ih =>
    have hc := h c List.mem_cons_self
    -- the two capitals with a lowercase of their own lie far beyond ASCII
    have hsigma : c ≠ 'Σ' := by
      rintro rfl
      exact absurd hc (by decide)
    have hdotted : c ≠ 'İ' := by
      rintro rfl
      exact absurd hc (by decide)
    rw [lowerAfter, ih fun d hd => h d (List.mem_cons_of_mem c hd)]
    simp [hsigma, hdotted, lowerChar_of_ascii c hc]

/-- In ASCII, the lowercase is taken character by character. -/
theorem lower_of_ascii {s : Text} (h : ∀ c ∈ s, c.toNat < 128) : lower s = s.map Char.toLower :=
  lowerAfter_of_ascii h []

end Unicode

namespace Naming

open Unicode

/-! ## Letters and digits -/

/-- What the words of a spelling go on with. -/
def isSmall (c : Char) : Bool := c.isLower || c.isDigit

theorem isSmall_of_isLower {c : Char} (h : c.isLower = true) : isSmall c = true := by
  simp [isSmall, h]

theorem isAlphanum_of_isSmall {c : Char} (h : isSmall c = true) : c.isAlphanum = true := by
  rcases Bool.or_eq_true_iff.mp h with h | h
  · have halpha : c.isAlpha = true := Bool.or_eq_true_iff.mpr (Or.inr h)
    exact Bool.or_eq_true_iff.mpr (Or.inl halpha)
  · exact Bool.or_eq_true_iff.mpr (Or.inr h)

theorem forall_isAlphanum {P : Char → Prop}
    (h : ∀ n < 128, (Char.ofNat n).isAlphanum = true → P (Char.ofNat n)) (c : Char)
    (hc : c.isAlphanum = true) : P c :=
  forall_ascii (P := fun c => c.isAlphanum = true → P c) h c (toNat_lt_of_isAlphanum hc) hc

/-- Letters and digits of ASCII are never stripped from a name, and do not divide it. -/
theorem kept_of_isAlphanum : ∀ c : Char, c.isAlphanum = true →
    isBlank c = false ∧ (c == Word.sigil) = false ∧ isSeparator c = false :=
  forall_isAlphanum (by decide +kernel)

/-- A letter or digit is a capital, or it can be in front of a hump. -/
theorem case_of_isAlphanum : ∀ c : Char, c.isAlphanum = true →
    isUpper c = !isSmall c ∧ (isLower c || isNumber c) = isSmall c :=
  forall_isAlphanum (by decide +kernel)

theorem toLower_of_isSmall {c : Char} (h : isSmall c = true) : c.toLower = c :=
  forall_isAlphanum (P := fun c => isSmall c = true → c.toLower = c) (by decide +kernel) c
    (isAlphanum_of_isSmall h) h

/-- A small letter has a capital, whose lowercase it is. -/
theorem toUpper_of_isLower {c : Char} (h : c.isLower = true) :
    c.toUpper.isAlphanum = true ∧ isSmall c.toUpper = false ∧ c.toUpper.toLower = c :=
  forall_isAlphanum (P := fun c => c.isLower = true →
      c.toUpper.isAlphanum = true ∧ isSmall c.toUpper = false ∧ c.toUpper.toLower = c)
    (by decide +kernel) c (isAlphanum_of_isSmall (isSmall_of_isLower h)) h

/-! ## Written words -/

/-- A word of a spelling: a small letter, and then small letters and digits, at least one. -/
def isWord : Text → Bool
  | [] => false
  | c :: s => c.isLower && !s.isEmpty && s.all isSmall

/-- A word as it is, or with a capital in front. -/
def written (capital : Bool) : Text → Text
  | [] => []
  | c :: s => (if capital then c.toUpper else c) :: s

/-- What a word begins with is the only character of it that can be written with a capital. -/
theorem exists_written {word : Text} (hword : isWord word = true) (capital : Bool) :
    ∃ c s, written capital word = c :: s ∧ word = c.toLower :: s ∧ c.isAlphanum = true ∧
      isSmall c = !capital ∧ s ≠ [] ∧ ∀ d ∈ s, isSmall d = true := by
  cases word with
  | nil => simp [isWord] at hword
  | cons c s =>
    simp only [isWord, Bool.and_eq_true, Bool.not_eq_true', List.isEmpty_eq_false_iff,
      List.all_eq_true] at hword
    rcases hword with ⟨⟨hc, hne⟩, hall⟩
    have hsmall := isSmall_of_isLower hc
    cases capital with
    | false =>
      exact ⟨c, s, rfl, by rw [toLower_of_isSmall hsmall], isAlphanum_of_isSmall hsmall, hsmall,
        hne, hall⟩
    | true =>
      rcases toUpper_of_isLower hc with ⟨halnum, hupper, hlower⟩
      exact ⟨c.toUpper, s, rfl, by rw [hlower], halnum, hupper, hne, hall⟩

/-- A written word does not fall apart. -/
theorem isPiece_written {word : Text} (hword : isWord word = true) (capital : Bool) :
    IsPiece (written capital word) := by
  rcases exists_written hword capital with ⟨c, s, hwritten, -, hc, -, -, hall⟩
  rw [hwritten]
  refine ⟨List.cons_ne_nil c s, ?_, isChain_of_not_isUpper ?_⟩
  · intro d hd
    rcases List.mem_cons.mp hd with rfl | hd
    · exact (kept_of_isAlphanum d hc).2.2
    · exact (kept_of_isAlphanum d (isAlphanum_of_isSmall (hall d hd))).2.2
  · intro d hd
    rw [(case_of_isAlphanum d (isAlphanum_of_isSmall (hall d hd))).1, hall d hd]
    rfl

theorem lower_written {word : Text} (hword : isWord word = true) (capital : Bool) :
    lower (written capital word) = word := by
  rcases exists_written hword capital with ⟨c, s, hwritten, hlower, hc, -, -, hall⟩
  have hascii : ∀ d ∈ c :: s, d.toNat < 128 := by
    intro d hd
    rcases List.mem_cons.mp hd with rfl | hd
    · exact toNat_lt_of_isAlphanum hc
    · exact toNat_lt_of_isAlphanum (isAlphanum_of_isSmall (hall d hd))
  have hsame : s.map Char.toLower = s := by
    rw [List.map_congr_left fun d hd => toLower_of_isSmall (hall d hd), List.map_id']
  rw [hwritten, lower_of_ascii hascii, List.map_cons, hsame, ← hlower]

theorem head?_written {word : Text} (hword : isWord word = true) (capital : Bool) :
    ∃ c ∈ (written capital word).head?, c.isAlphanum = true ∧ isSmall c = !capital := by
  rcases exists_written hword capital with ⟨c, s, hwritten, -, hc, hcase, -, -⟩
  exact ⟨c, by simp [hwritten], hc, hcase⟩

/-- A written word ends in a small letter or digit: it has more than one character. -/
theorem getLast?_written {word : Text} (hword : isWord word = true) (capital : Bool) :
    ∃ c ∈ (written capital word).getLast?, isSmall c = true := by
  rcases exists_written hword capital with ⟨c, s, hwritten, -, -, -, hne, hall⟩
  refine ⟨s.getLast hne, ?_, hall _ (s.getLast_mem hne)⟩
  rw [hwritten, List.getLast?_cons, List.getLast?_eq_getLast_of_ne_nil hne]
  rfl

/-! ## Spellings -/

/-- The second text spells the words, the first one with a capital or without. What stands between
two words are separators, and it may be nothing only in front of a capital. -/
inductive Spells : Bool → List Text → Text → Prop
  | last (capital : Bool) {word : Text} (hword : isWord word = true) :
      Spells capital [word] (written capital word)
  | cons (capital : Bool) {word : Text} (hword : isWord word = true) {seps : Text}
      (hseps : seps.all isSeparator = true) {next : Bool} (hnext : seps ≠ [] ∨ next = true)
      {words : List Text} {s : Text} (hlater : Spells next words s) :
      Spells capital (word :: words) (written capital word ++ (seps ++ s))

namespace Spells

variable {capital : Bool} {words : List Text} {s : Text}

theorem ne_nil (h : Spells capital words s) : words ≠ [] := by
  cases h with
  | last => exact List.cons_ne_nil _ _
  | cons => exact List.cons_ne_nil _ _

theorem head? (h : Spells capital words s) :
    ∃ c ∈ s.head?, c.isAlphanum = true ∧ isSmall c = !capital := by
  cases h with
  | last _ hword => exact head?_written hword capital
  | cons _ hword =>
    rcases head?_written hword capital with ⟨c, hc, hfacts⟩
    exact ⟨c, List.mem_head?_append_of_mem_head? hc, hfacts⟩

theorem getLast? (h : Spells capital words s) : ∃ c ∈ s.getLast?, isSmall c = true := by
  induction h with
  | last capital hword => exact getLast?_written hword capital
  | cons capital hword hseps hnext hlater ih =>
    rcases ih with ⟨c, hc, hsmall⟩
    exact ⟨c, by simp [List.getLast?_append, Option.mem_def.mp hc], hsmall⟩

theorem spelling_ne_nil (h : Spells capital words s) : s ≠ [] := by
  rcases h.head? with ⟨c, hc, -⟩
  rintro rfl
  simp at hc

/-- Nothing is stripped in front of a spelling. -/
theorem stops_front (h : Spells capital words s) :
    Stops isBlank s ∧ Stops (· == Word.sigil) s := by
  rcases h.head? with ⟨c, hc, halnum, -⟩
  rcases kept_of_isAlphanum c halnum with ⟨hblank, hsigil, -⟩
  constructor
  · simp [Stops, Option.mem_def.mp hc, hblank]
  · simpa [Stops, Option.mem_def.mp hc] using hsigil

/-- Nothing is stripped at its end. -/
theorem stops_back (h : Spells capital words s) : Stops isBlank s.reverse := by
  rcases h.getLast? with ⟨c, hc, hsmall⟩
  have hblank := (kept_of_isAlphanum c (isAlphanum_of_isSmall hsmall)).1
  simp [Stops, Option.mem_def.mp hc, hblank]

/-- A word ends where a spelling goes on, by a separator or else by a hump. -/
theorem fallsApart (h : Spells capital words s) {seps : Text} (hseps : seps.all isSeparator = true)
    (hcapital : seps ≠ [] ∨ capital = true) {front : Text}
    (hfront : ∃ c ∈ front.getLast?, isSmall c = true) : FallsApart front (seps ++ s) := by
  intro c hc d hd
  cases seps with
  | cons e seps =>
    rw [List.all_cons, Bool.and_eq_true] at hseps
    obtain rfl : e = d := by simpa using hd
    exact isBreak_of_isSeparator_right hseps.1 c
  | nil =>
    rcases hfront with ⟨c', hc', hsmall⟩
    rcases h.head? with ⟨d', hd', halnum, hcase⟩
    obtain rfl := Option.mem_unique hc hc'
    obtain rfl := Option.mem_unique hd hd'
    have hcapital : capital = true := by simpa using hcapital
    apply isBreak_of_isHump
    rw [isHump, (case_of_isAlphanum c (isAlphanum_of_isSmall hsmall)).2, hsmall,
      (case_of_isAlphanum d halnum).1, hcase, hcapital]
    rfl

/-- The words of a spelling are the words it spells, but for capitals. -/
theorem map_lower_contentWords (h : Spells capital words s) :
    (contentWords s).map lower = words := by
  induction h with
  | last capital hword =>
    rw [contentWords_of_isPiece (isPiece_written hword capital), List.map_singleton,
      lower_written hword]
  | cons capital hword hseps hnext hlater ih =>
    rw [contentWords_append (hlater.fallsApart hseps hnext (getLast?_written hword capital)),
      contentWords_of_isPiece (isPiece_written hword capital),
      contentWords_append (fallsApart_of_separators_left hseps _),
      contentWords_of_separators hseps, List.nil_append, List.singleton_append, List.map_cons,
      lower_written hword, ih]

end Spells

/-- All spellings of a content name have the same form in source text: the words joined by hyphens,
behind one sigil. White space at the ends makes no difference, nor do sigils and then separators in
front, nor separators behind. -/
theorem contentName_of_spells {capital : Bool} {words : List Text} {name : Text}
    (h : Spells capital words name) {blanks blanks' seps seps' : Text}
    (hblanks : blanks.all isWhiteSpace = true) (hblanks' : blanks'.all isWhiteSpace = true)
    (hseps : seps.all isSeparator = true) (hseps' : seps'.all isSeparator = true) (sigils : Nat) :
    contentName (blanks ++ List.replicate sigils Word.sigil ++ seps ++ name ++ seps' ++ blanks') =
      Word.sigil :: Text.join "-" words := by
  have hblank : ∀ {s : Text}, s.all isWhiteSpace = true → s.all isBlank = true := by
    intro s hs
    rw [List.all_eq_true] at hs ⊢
    exact fun c hc => isBlank_of_isWhiteSpace (hs c hc)
  have hwords := contentWords_contentCore (hblank hblanks) (hblank hblanks') hseps hseps' sigils
    h.spelling_ne_nil h.stops_front.1 h.stops_front.2 h.stops_back
  simp only [List.append_assoc] at hwords ⊢
  exact contentName_of_map_lower (by rw [hwords, h.map_lower_contentWords]) h.ne_nil

/-- Four spellings of the same two words, and one of them behind sigils and between separators. -/
theorem contentName_titaniumConveyor :
    contentName "Titanium Conveyor" = "@titanium-conveyor" ∧
    contentName "titaniumConveyor" = "@titanium-conveyor" ∧
    contentName "titanium_conveyor" = "@titanium-conveyor" ∧
    contentName "@titanium-conveyor" = "@titanium-conveyor" ∧
    contentName "\t@@_ titaniumConveyor- " = "@titanium-conveyor" := by
  have hspells : ∀ (capital next : Bool) (seps : Text), seps.all isSeparator = true →
      seps ≠ [] ∨ next = true → Spells capital ["titanium", "conveyor"]
        (written capital "titanium" ++ (seps ++ written next "conveyor")) :=
    fun capital next seps hseps hnext =>
      Spells.cons capital (by decide) hseps hnext (Spells.last next (by decide))
  have hspaced := hspells true true " " (by decide) (.inl (by decide))
  have hcamel := hspells false true [] (by decide) (.inr rfl)
  have hscore := hspells false false "_" (by decide) (.inl (by decide))
  have hhyphen := hspells false false "-" (by decide) (.inl (by decide))
  have hblanks : (['\t'] : Text).all isWhiteSpace = true := by decide
  have hblanks' : ([' '] : Text).all isWhiteSpace = true := by decide
  have hseps : (['_', ' '] : Text).all isSeparator = true := by decide
  have hseps' : (['-'] : Text).all isSeparator = true := by decide
  have hnone : ∀ p : Char → Bool, ([] : Text).all p = true := fun _ => rfl
  exact ⟨contentName_of_spells hspaced (hnone _) (hnone _) (hnone _) (hnone _) 0,
    contentName_of_spells hcamel (hnone _) (hnone _) (hnone _) (hnone _) 0,
    contentName_of_spells hscore (hnone _) (hnone _) (hnone _) (hnone _) 0,
    contentName_of_spells hhyphen (hnone _) (hnone _) (hnone _) (hnone _) 1,
    contentName_of_spells hcamel hblanks hblanks' hseps hseps' 2⟩

end Naming

end MlogHighlight
