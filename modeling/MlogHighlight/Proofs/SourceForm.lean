import MlogHighlight.Proofs.ContentName
import MlogHighlight.Proofs.Lowercase

/-!
# Names in source form

The form of a content name in source text is a content name again, which may have another form: a
capital without a small letter makes a hump behind a letter that has become small, and what was
protected by separators at the ends of the name no longer is. Main facts:

* `contentWords_join`: the words of words joined by hyphens;
* `contentName_eq_self_of_settled`, `settled_of_contentName_eq_self`: which names of small words keep
  their form;
* `contentName_settles`: which forms are final, and which names are left as they are.
-/

namespace MlogHighlight

open Text

namespace Naming

open Unicode

/-! ## Small words -/

/-- What is no separator does not become one. -/
theorem isSeparator_lowerChar {c : Char} (hc : isSeparator c = false) :
    isSeparator (lowerChar c) = false := by
  by_cases heq : lowerChar c = c
  · rwa [heq]
  rw [isSeparator, Bool.or_eq_false_iff, Bool.or_eq_false_iff]
  refine ⟨⟨?_, ?_⟩, ?_⟩
  · by_contra hspace
    rw [Bool.not_eq_false] at hspace
    rcases List.mem_flatMap.mp (Ranges.mem_points_of_contains hspace) with ⟨range, hrange, hpoint⟩
    rw [List.mem_range'_1] at hpoint
    exact lowerChar_avoids heq range (List.mem_append_left _ hrange) hpoint.1 (by omega)
  · rw [beq_eq_false_iff_ne]
    intro hscore
    have havoids := lowerChar_avoids heq (0x5F, 0x5F) (by simp)
    rw [hscore] at havoids
    exact havoids (by decide) (by decide)
  · rw [beq_eq_false_iff_ne]
    intro hhyphen
    have havoids := lowerChar_avoids heq (0x2D, 0x2D) (by simp)
    rw [hhyphen] at havoids
    exact havoids (by decide) (by decide)

theorem isSeparator_of_mem_lower {s : Text} (hs : ∀ c ∈ s, isSeparator c = false) {d : Char}
    (h : d ∈ lower s) : isSeparator d = false := by
  rcases mem_lower h with ⟨c, hc, hd⟩
  rcases lowerForms_cases hd with hd | ⟨-, hd⟩ | ⟨-, -, rfl⟩
  · simp only [List.mem_cons, List.not_mem_nil, or_false] at hd
    rcases hd with rfl | rfl <;> decide
  · simp only [List.mem_cons, List.not_mem_nil, or_false] at hd
    rcases hd with rfl | rfl <;> decide
  · exact isSeparator_lowerChar (hs c hc)

/-- The word is in lowercase and has no separators. -/
structure IsSmallWord (word : Text) : Prop where
  ne_nil : word ≠ []
  noSeparator : ∀ c ∈ word, isSeparator c = false
  lowered : ∀ c ∈ word, IsLowered c

theorem isSmallWord_lower {word : Text} (h : IsPiece word) : IsSmallWord (lower word) where
  ne_nil := lowerAfter_ne_nil [] h.ne_nil
  noSeparator := fun _ hd => isSeparator_of_mem_lower h.noSeparator hd
  lowered := fun _ hd => isLowered_of_mem_lower hd

theorem map_lower_of_isLowered {words : List Text} (h : ∀ word ∈ words, ∀ c ∈ word, IsLowered c) :
    words.map lower = words := by
  have hword : ∀ word ∈ words, lower word = id word := fun word hw => lower_of_isLowered (h word hw)
  rw [List.map_congr_left hword, List.map_id]

/-- The form of a name is that of its words, which are small words then. -/
theorem exists_words_of_contentName_ne_nil {s : Text} (h : contentName s ≠ []) :
    ∃ words, words ≠ [] ∧ words = (contentWords (contentCore s)).map lower ∧
      contentName s = Word.sigil :: join "-" words ∧ ∀ word ∈ words, IsSmallWord word := by
  refine ⟨_, ?_, rfl, ?_, ?_⟩
  · intro hnil
    rw [List.map_eq_nil_iff] at hnil
    exact h (by rw [contentName, hnil])
  · unfold contentName at h ⊢
    split
    · rename_i hnil
      simp [hnil] at h
    · rfl
  · intro word hword
    rcases List.mem_map.mp hword with ⟨piece, hpiece, rfl⟩
    exact isSmallWord_lower (isPiece_of_mem_contentWords hpiece)

/-! ## Joined words -/

variable {words : List Text}

theorem join_cons_cons (separator word next : Text) (rest : List Text) :
    join separator (word :: next :: rest) = word ++ (separator ++ join separator (next :: rest)) := by
  rw [join, List.append_assoc]
  simp

/-- A property of texts that holds of words and goes over to joined ones holds of all words joined. -/
theorem join_induction {P : Text → Prop} (hne : words ≠ []) (h : ∀ word ∈ words, P word)
    (happend : ∀ word rest, P word → P rest → P (word ++ ('-' :: rest))) : P (join "-" words) := by
  induction words with
  | nil => exact absurd rfl hne
  | cons word rest ih =>
    rcases List.forall_mem_cons.mp h with ⟨hword, hrest⟩
    cases rest with
    | nil => exact hword
    | cons next rest =>
      rw [join_cons_cons]
      exact happend word _ hword (ih (List.cons_ne_nil next rest) hrest)

/-- Joined texts have the characters of the texts and of the separator. -/
theorem mem_join {separator : Text} {c : Char} (h : c ∈ join separator words) :
    c ∈ separator ∨ ∃ word ∈ words, c ∈ word := by
  induction words with
  | nil => simp [join] at h
  | cons word rest ih =>
    cases rest with
    | nil => exact Or.inr ⟨word, List.mem_cons_self, h⟩
    | cons next rest =>
      rw [join_cons_cons, List.mem_append, List.mem_append] at h
      rcases h with h | h | h
      · exact Or.inr ⟨word, List.mem_cons_self, h⟩
      · exact Or.inl h
      · rcases ih h with h | ⟨later, hlater, h⟩
        · exact Or.inl h
        · exact Or.inr ⟨later, List.mem_cons_of_mem word hlater, h⟩

/-- A word stands in the text of the joined words. -/
theorem isInfix_join {word : Text} (h : word ∈ words) : word <:+: join "-" words := by
  induction words with
  | nil => simp at h
  | cons first rest ih =>
    cases rest with
    | nil => exact List.mem_singleton.mp h ▸ List.infix_refl _
    | cons next rest =>
      rw [join_cons_cons]
      rcases List.mem_cons.mp h with rfl | h
      · exact (List.prefix_append _ _).isInfix
      · have hlater := (ih h).trans (List.suffix_append "-".toList _).isInfix
        exact hlater.trans (List.suffix_append first _).isInfix

theorem filter_join (h : ∀ word ∈ words, ∀ c ∈ word, isSeparator c = false) :
    (join "-" words).filter (fun c => !isSeparator c) = words.flatten := by
  have hword : ∀ word ∈ words, word.filter (fun c => !isSeparator c) = word := by
    intro word hw
    rw [List.filter_eq_self]
    intro c hc
    rw [h word hw c hc, Bool.not_false]
  induction words with
  | nil => rfl
  | cons word rest ih =>
    rcases List.forall_mem_cons.mp hword with ⟨hfirst, hlater⟩
    cases rest with
    | nil => rw [join, hfirst, List.flatten_cons, List.flatten_nil, List.append_nil]
    | cons next rest =>
      rw [join_cons_cons, List.filter_append, List.filter_append, hfirst,
        ih (List.forall_mem_cons.mp h).2 hlater, List.flatten_cons]
      rfl

theorem contentWords_join (h : ∀ word ∈ words, IsPiece word) :
    contentWords (join "-" words) = words := by
  have hhyphen : ("-".toList).all isSeparator = true := by decide
  induction words with
  | nil => rfl
  | cons word rest ih =>
    rcases List.forall_mem_cons.mp h with ⟨hword, hrest⟩
    cases rest with
    | nil => exact contentWords_of_isPiece hword
    | cons next rest =>
      have happart : FallsApart word ("-".toList ++ join "-" (next :: rest)) := by
        intro c _ d hd
        obtain rfl : '-' = d := by simpa using hd
        exact isBreak_of_isSeparator_right (by decide) c
      rw [join_cons_cons, contentWords_append happart, contentWords_of_isPiece hword,
        contentWords_append (fallsApart_of_separators_left hhyphen _),
        contentWords_of_separators hhyphen, ih hrest]
      rfl

/-- A hyphen is on neither side of a hump. -/
theorem isChain_append_hyphen {word rest : Text}
    (hword : word.IsChain fun c d => isHump c d = false)
    (hrest : rest.IsChain fun c d => isHump c d = false) :
    (word ++ ('-' :: rest)).IsChain fun c d => isHump c d = false := by
  have hbefore : ∀ c, isHump c '-' = false := by
    intro c
    rw [isHump, Bool.and_eq_false_iff]
    exact Or.inr (by decide)
  have hbehind : ∀ d, isHump '-' d = false := by
    intro d
    rw [isHump, Bool.and_eq_false_iff]
    exact Or.inl (by decide)
  refine hword.append (List.isChain_cons.mpr ⟨fun d _ => hbehind d, hrest⟩) ?_
  intro c _ d hd
  obtain rfl : '-' = d := by simpa using hd
  exact hbefore c

/-! ## Final forms -/

/-- The name has no hump, no second sigil behind its first character and no blank at its end. -/
structure IsSettled (name : Text) : Prop where
  noHump : name.IsChain fun c d => isHump c d = false
  oneSigil : Stops (· == Word.sigil) name.tail
  noBlank : Stops isBlank name.reverse

theorem isSettled_nil : IsSettled [] := ⟨List.IsChain.nil, stops_nil, stops_nil⟩

theorem isChain_cons_sigil {s : Text} :
    (Word.sigil :: s).IsChain (fun c d => isHump c d = false) ↔
      s.IsChain fun c d => isHump c d = false := by
  have hsigil : ∀ d, isHump Word.sigil d = false := by
    intro d
    rw [isHump, Bool.and_eq_false_iff]
    exact Or.inl (by decide)
  rw [List.isChain_cons]
  exact ⟨fun h => h.2, fun h => ⟨fun d _ => hsigil d, h⟩⟩

/-- Of a name behind a sigil, further sigils and the blanks at the end do not count. -/
theorem contentCore_sigil (s : Text) :
    contentCore (Word.sigil :: s) = (s.trimEnd isBlank).dropWhile (· == Word.sigil) := by
  have htrim : trim isBlank (Word.sigil :: s) = Word.sigil :: s.trimEnd isBlank := by
    have hfront : Stops isBlank (Word.sigil :: s) := by
      rw [stops_cons]
      decide
    have hback : Stops isBlank (List.reverse [Word.sigil]) := by
      rw [List.reverse_singleton, stops_cons]
      decide
    rw [Text.trim, dropWhile_of_stops hfront]
    exact trimEnd_append_of_stops hback s
  rw [contentCore, htrim]
  exact List.dropWhile_cons_of_pos (by simp)

theorem stops_reverse_sigil {s : Text} :
    Stops isBlank (Word.sigil :: s).reverse ↔ Stops isBlank s.reverse := by
  rw [List.reverse_cons]
  by_cases hempty : s = []
  · rw [hempty, List.reverse_nil, List.nil_append, stops_cons]
    exact ⟨fun _ => stops_nil, fun _ => by decide⟩
  · exact stops_append_of_ne_nil (by simpa using hempty) _

/-- A settled name of small words keeps its form. -/
theorem contentName_eq_self_of_settled (hne : words ≠ []) (hsmall : ∀ word ∈ words, IsSmallWord word)
    (h : IsSettled (Word.sigil :: join "-" words)) :
    contentName (Word.sigil :: join "-" words) = Word.sigil :: join "-" words := by
  have hpieces : ∀ word ∈ words, IsPiece word := by
    intro word hword
    exact ⟨(hsmall word hword).ne_nil, (hsmall word hword).noSeparator,
      List.IsChain.infix (isChain_cons_sigil.mp h.noHump) (isInfix_join hword)⟩
  have hcore : contentCore (Word.sigil :: join "-" words) = join "-" words := by
    rw [contentCore_sigil, trimEnd_of_stops (stops_reverse_sigil.mp h.noBlank)]
    exact dropWhile_of_stops h.oneSigil
  apply contentName_of_map_lower _ hne
  rw [hcore, contentWords_join hpieces]
  exact map_lower_of_isLowered fun word hword => (hsmall word hword).lowered

theorem isLowered_of_mem_join (hsmall : ∀ word ∈ words, IsSmallWord word) :
    ∀ c ∈ join "-" words, IsLowered c := by
  intro c hc
  rcases mem_join hc with hc | ⟨word, hword, hc⟩
  · rw [List.mem_singleton.mp hc]
    exact ⟨by decide, by decide, by decide⟩
  · exact (hsmall word hword).lowered c hc

/-- Joined words do not end in a separator. -/
theorem stops_reverse_join (hne : words ≠ []) (hsmall : ∀ word ∈ words, IsSmallWord word) :
    Stops isSeparator (join "-" words).reverse := by
  suffices h : join "-" words ≠ [] ∧ Stops isSeparator (join "-" words).reverse from h.2
  refine join_induction (P := fun s => s ≠ [] ∧ Stops isSeparator s.reverse) hne ?_ ?_
  · intro word hword
    refine ⟨(hsmall word hword).ne_nil, ?_⟩
    cases hlast : word.reverse with
    | nil => rfl
    | cons c rest =>
      rw [stops_cons]
      exact (hsmall word hword).noSeparator c (List.mem_reverse.mp (by simp [hlast]))
  · intro word rest _ hrest
    refine ⟨by simp, ?_⟩
    rw [List.reverse_append, List.reverse_cons, List.append_assoc,
      stops_append_of_ne_nil (by simpa using hrest.1)]
    exact hrest.2

/-- What is stripped of what follows a sigil: sigils in front of the core, and blanks behind it. -/
theorem exists_stripped (body : Text) :
    ∃ sigils blanks, body.trimEnd isBlank = sigils ++ contentCore (Word.sigil :: body) ∧
      body = sigils ++ contentCore (Word.sigil :: body) ++ blanks ∧
      sigils.all (· == Word.sigil) = true := by
  rcases eq_trimEnd isBlank body with ⟨blanks, hblanks, -⟩
  have hsigils := List.takeWhile_append_dropWhile (p := (· == Word.sigil)) (l := body.trimEnd isBlank)
  rw [← contentCore_sigil] at hsigils
  refine ⟨_, blanks, hsigils.symm, ?_, all_takeWhile _ _⟩
  rw [hsigils, ← hblanks]

/-- The words of a name in lowercase that keeps its form make up the name. -/
theorem eq_join_of_contentName_eq_self {body : Text} (hlowered : ∀ c ∈ body, IsLowered c)
    (h : contentName (Word.sigil :: body) = Word.sigil :: body) :
    contentWords (contentCore (Word.sigil :: body)) ≠ [] ∧
      body = join "-" (contentWords (contentCore (Word.sigil :: body))) := by
  rcases exists_words_of_contentName_ne_nil (by rw [h]; exact List.cons_ne_nil _ _) with
    ⟨words, hne, hwords, hname, -⟩
  rcases exists_stripped body with ⟨sigils, blanks, -, hparts, -⟩
  rw [map_lower_of_isLowered] at hwords
  swap
  · intro word hword c hc
    have hflat := List.mem_flatten.mpr ⟨word, hword, hc⟩
    rw [flatten_contentWords, List.mem_filter] at hflat
    refine hlowered c ?_
    rw [hparts]
    exact List.mem_append_left _ (List.mem_append_right _ hflat.1)
  rw [h, List.cons.injEq] at hname
  exact ⟨hwords ▸ hne, hwords ▸ hname.2⟩

/-- Nothing is stripped of a text that has the characters of its core only, separators aside, and
does not end in a separator. -/
theorem eq_nil_of_filter_eq {sigils core blanks : Text}
    (hsigils : sigils.all (· == Word.sigil) = true)
    (hback : Stops isSeparator (sigils ++ core ++ blanks).reverse)
    (h : (sigils ++ core ++ blanks).filter (fun c => !isSeparator c) =
      core.filter fun c => !isSeparator c) : sigils = [] ∧ blanks = [] := by
  have hlength := congrArg List.length h
  rw [List.filter_append, List.filter_append, List.length_append, List.length_append] at hlength
  constructor
  · -- a sigil is no separator
    have hkept : sigils.filter (fun c => !isSeparator c) = sigils := by
      rw [List.filter_eq_self]
      intro c hc
      rw [beq_iff_eq.mp (List.all_eq_true.mp hsigils c hc)]
      decide
    rw [hkept] at hlength
    exact List.length_eq_zero_iff.mp (by omega)
  · -- the blanks are separators, but the last character is none
    have hdropped : blanks.filter (fun c => !isSeparator c) = [] :=
      List.length_eq_zero_iff.mp (by omega)
    by_contra hempty
    rw [List.reverse_append, stops_append_of_ne_nil (by simpa using hempty)] at hback
    refine not_stops_of_all (by simpa using hempty) ?_ hback
    rw [List.all_reverse, List.all_eq_true]
    intro c hc
    simpa using List.filter_eq_nil_iff.mp hdropped c hc

/-- A name of small words that keeps its form is settled: whatever is stripped from it, or divides
its words, would be missing or added in its form. -/
theorem settled_of_contentName_eq_self (hne : words ≠ [])
    (hsmall : ∀ word ∈ words, IsSmallWord word)
    (h : contentName (Word.sigil :: join "-" words) = Word.sigil :: join "-" words) :
    IsSettled (Word.sigil :: join "-" words) := by
  have hlowered := isLowered_of_mem_join hsmall
  have hback := stops_reverse_join hne hsmall
  generalize join "-" words = body at h hlowered hback ⊢
  rcases eq_join_of_contentName_eq_self hlowered h with ⟨hwords, hjoin⟩
  have hpieces : ∀ word ∈ contentWords (contentCore (Word.sigil :: body)), IsPiece word :=
    fun _ hword => isPiece_of_mem_contentWords hword
  -- the words have all that counts of the name, so the whole name counts
  have hsame : body.filter (fun c => !isSeparator c) =
      (contentCore (Word.sigil :: body)).filter fun c => !isSeparator c := by
    conv_lhs => rw [hjoin]
    rw [filter_join fun word hword => (hpieces word hword).noSeparator, flatten_contentWords]
  rcases exists_stripped body with ⟨sigils, blanks, htrim, hparts, hsigils⟩
  rcases eq_nil_of_filter_eq hsigils (hparts ▸ hback) (hparts ▸ hsame) with ⟨rfl, rfl⟩
  rw [List.nil_append] at htrim hparts
  rw [List.append_nil] at hparts
  constructor
  · rw [isChain_cons_sigil, hjoin]
    exact join_induction hwords (fun word hword => (hpieces word hword).noHump)
      fun word rest hword hrest => isChain_append_hyphen hword hrest
  · rw [List.tail_cons, hparts, contentCore_sigil]
    exact stops_dropWhile _ _
  · rw [stops_reverse_sigil, hparts, ← htrim]
    exact stops_reverse_trimEnd isBlank body

/-! ## Which forms are final -/

/-- The words of a name in source form: there is one, they are in lowercase and do not fall apart,
and joined they do not begin with a sigil, nor end in a blank. -/
structure IsSourceForm (words : List Text) : Prop where
  ne_nil : words ≠ []
  isPiece : ∀ word ∈ words, IsPiece word
  lower_eq : ∀ word ∈ words, lower word = word
  front : Stops (· == Word.sigil) (join "-" words)
  back : Stops isBlank (join "-" words).reverse

theorem IsSourceForm.isSmallWord (h : IsSourceForm words) : ∀ word ∈ words, IsSmallWord word := by
  intro word hword
  rw [← h.lower_eq word hword]
  exact isSmallWord_lower (h.isPiece word hword)

theorem IsSourceForm.isSettled (h : IsSourceForm words) :
    IsSettled (Word.sigil :: join "-" words) where
  noHump := isChain_cons_sigil.mpr <| join_induction h.ne_nil
    (fun word hword => (h.isPiece word hword).noHump) fun _ _ hword hrest =>
      isChain_append_hyphen hword hrest
  oneSigil := h.front
  noBlank := stops_reverse_sigil.mpr h.back

/-- The form of a name is final just if it is settled. -/
theorem contentName_contentName_iff (s : Text) :
    contentName (contentName s) = contentName s ↔ IsSettled (contentName s) := by
  by_cases hempty : contentName s = []
  · rw [hempty]
    exact ⟨fun _ => isSettled_nil, fun _ => rfl⟩
  · rcases exists_words_of_contentName_ne_nil hempty with ⟨words, hne, -, hname, hsmall⟩
    rw [hname]
    exact ⟨settled_of_contentName_eq_self hne hsmall, contentName_eq_self_of_settled hne hsmall⟩

/-- A name is left as it is just if it is empty or in source form. -/
theorem contentName_eq_self_iff (s : Text) :
    contentName s = s ↔ s = [] ∨ ∃ words, IsSourceForm words ∧ s = Word.sigil :: join "-" words := by
  constructor
  · intro h
    by_cases hempty : s = []
    · exact Or.inl hempty
    · right
      have hsettled := (contentName_contentName_iff s).mp (by rw [h, h])
      rcases exists_words_of_contentName_ne_nil (by rwa [h]) with ⟨words, hne, -, hname, hsmall⟩
      rw [hname] at hsettled
      refine ⟨words, ⟨hne, ?_, ?_, hsettled.oneSigil, ?_⟩, by rw [← hname, h]⟩
      · intro word hword
        exact ⟨(hsmall word hword).ne_nil, (hsmall word hword).noSeparator,
          List.IsChain.infix (isChain_cons_sigil.mp hsettled.noHump) (isInfix_join hword)⟩
      · intro word hword
        exact lower_of_isLowered (hsmall word hword).lowered
      · exact stops_reverse_sigil.mp hsettled.noBlank
  · rintro (rfl | ⟨words, hwords, rfl⟩)
    · rfl
    · exact contentName_eq_self_of_settled hwords.ne_nil hwords.isSmallWord hwords.isSettled

/-- The form of a name is final just if it has no hump, no second sigil in front and no blank at its
end; and the names that are left as they are are the empty one and those in source form, words in
lowercase that are joined by hyphens behind one sigil. -/
theorem contentName_settles (s : Text) :
    (contentName (contentName s) = contentName s ↔ IsSettled (contentName s)) ∧
    (contentName s = s ↔
      s = [] ∨ ∃ words, IsSourceForm words ∧ s = Word.sigil :: join "-" words) :=
  ⟨contentName_contentName_iff s, contentName_eq_self_iff s⟩

/-- A capital that has no small letter becomes a hump when the letter in front of it becomes small,
so the form has another form. -/
theorem contentName_not_final :
    contentName "Aϒ" = "@aϒ" ∧ contentName (contentName "Aϒ") = "@a-ϒ" ∧
      contentName (contentName "Aϒ") ≠ contentName "Aϒ" := by
  have hfirst : contentName "Aϒ" = "@aϒ" := by decide
  have hsecond : contentName "@aϒ" = "@a-ϒ" := by decide
  refine ⟨hfirst, by rw [hfirst, hsecond], ?_⟩
  rw [hfirst, hsecond]
  decide

end Naming

end MlogHighlight
