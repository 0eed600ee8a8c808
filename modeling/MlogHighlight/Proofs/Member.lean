import MlogHighlight.Proofs.Description
import MlogHighlight.Proofs.Indentation
import MlogHighlight.Proofs.SourceForm

/-!
# Members on their own

A member of a set is found on a line of its own if it is one whole word. The names of a content set
are made of letters, numbers and separators, so their forms are whole words, but for one letter:
the dotted capital leaves a combining dot in lowercase, which is no word character, and a name with
it is found nowhere. Main facts:

* `Word.all_of_isToken`, `Word.isToken_of_mem_all`: which texts are one whole word;
* `RuleTable.classify_member`: the annotations of a member on its own;
* `Naming.isToken_contentName`: which forms of names are whole words;
* `RuleTable.classify_contentName`: the annotations of the name of a content set.
-/

namespace MlogHighlight

open Text

/-! ## Whole words -/

namespace Word

/-- Is the text one whole word? -/
def isToken (s : Text) : Bool := s.all isBody && beginsWord s

/-- A whole word is the only word of the text. -/
theorem all_of_isToken {s : Text} (h : isToken s = true) : all s = [⟨0, s⟩] := by
  rw [isToken, Bool.and_eq_true] at h
  cases s with
  | nil => simp [beginsWord] at h
  | cons c s =>
    have hbody := h.1
    rw [List.all_cons, Bool.and_eq_true] at hbody
    have hrun : s.takeWhile isBody = s := List.takeWhile_eq_self_iff.mpr (List.all_eq_true.mp hbody.2)
    have hrest : s.dropWhile isBody = [] := List.dropWhile_eq_nil_iff.mpr (List.all_eq_true.mp hbody.2)
    rw [all, runs, runsFrom_cons_of_pos hbody.1, hrun, hrest, runsFrom]
    exact List.filter_eq_self.mpr (List.forall_mem_singleton.mpr h.2)

theorem isToken_of_mem_all {line : Text} {word : Passage} (h : word ∈ all line) :
    isToken word.text = true := by
  rcases mem_all.mp h with ⟨⟨-, -, -, -, -, hbody, -⟩, hbegins⟩
  rw [isToken, hbody, hbegins]
  rfl

/-- A text is found among its own words just if it is a whole word. -/
theorem filter_all (s : Text) :
    (all s).filter (·.text ∈ [s]) = if isToken s then [⟨0, s⟩] else [] := by
  split
  · rename_i htoken
    rw [all_of_isToken htoken]
    simp
  · rename_i htoken
    rw [List.filter_eq_nil_iff]
    intro word hword hmem
    have heq : word.text = s := by simpa using hmem
    exact htoken (heq ▸ isToken_of_mem_all hword)

end Word

/-- Behind a sigil there is no label. -/
theorem Label.spans_sigil (s : Text) : Label.spans (Word.sigil :: s) = [] := by
  have hfront : Stops Unicode.isWhiteSpace (Word.sigil :: s) := by
    rw [stops_cons]
    decide
  have hbody : Stops Label.isBody (Word.sigil :: s) := by
    rw [stops_cons]
    decide
  have hdefinition : Label.definition? (Word.sigil :: s) = none := by
    simp only [Label.definition?, dropWhile_of_stops hfront, dropWhile_of_stops hbody]
    rfl
  have hreference : Label.reference? (Word.sigil :: s) = none := by
    simp only [Label.reference?, dropWhile_of_stops hfront]
    rfl
  rw [Label.spans, Label.spans_definitionPattern, Label.spans_referencePattern, hdefinition,
    hreference]
  rfl

namespace RuleTable

/-- A member without comments and labels is annotated on its own just if it is a whole word. -/
theorem classify_member (name category : Text) {member : Text} (hcomment : Comment.start ∉ member)
    (hlabel : Label.spans member = []) (offset : Int) :
    classify (structural ++ [⟨name, category, .members [member]⟩]) member offset =
      if Word.isToken member then [⟨offset, member.length + offset, category⟩] else [] := by
  have hcandidates : candidates (structural ++ [⟨name, category, .members [member]⟩]) member =
      if Word.isToken member then [⟨⟨0, member.length⟩, category⟩] else [] := by
    have hstructural : candidates structural member = [] := by
      rw [candidates_structural, Vocabulary.allMarks, Vocabulary.wordMarks_nil, hlabel,
        Comment.spans_pattern, Comment.spans_of_notMem hcomment]
      rfl
    rw [candidates, List.flatMap_append, List.flatMap_singleton]
    change candidates structural member ++ _ = _
    rw [hstructural, List.nil_append, Rule.marks, Matcher.spans, Word.filter_all]
    split <;> simp [Passage.span, Passage.stop]
  rw [classify, marks, hcandidates]
  split <;> simp [Mark.claim, Mark.insert, Mark.annotate]

end RuleTable

/-! ## The forms of names -/

namespace Naming

open Unicode

variable {s : Text}

/-- What is neither a blank nor a sigil is not stripped from a name. -/
theorem mem_contentCore {c : Char} (h : c ∈ s) (hblank : isBlank c = false) (hsigil : c ≠ Word.sigil) :
    c ∈ contentCore s := by
  have htrim : c ∈ s.trim isBlank := by
    rcases eq_trim isBlank s with ⟨back, heq, hback⟩
    rw [heq, List.append_assoc, List.mem_append, List.mem_append] at h
    rcases h with h | h | h
    · have hc := List.all_eq_true.mp (all_takeWhile isBlank s) c h
      rw [hblank] at hc
      exact Bool.noConfusion hc
    · exact h
    · have hc := List.all_eq_true.mp hback c h
      rw [hblank] at hc
      exact Bool.noConfusion hc
  rw [← List.takeWhile_append_dropWhile (p := (· == Word.sigil)) (l := s.trim isBlank),
    List.mem_append] at htrim
  rcases htrim with h | h
  · have hc := List.all_eq_true.mp (all_takeWhile _ _) c h
    exact absurd (beq_iff_eq.mp hc) hsigil
  · exact h

theorem mem_of_mem_contentCore {c : Char} (h : c ∈ contentCore s) : c ∈ s := by
  have htrim := (List.dropWhile_suffix _).subset h
  exact (List.dropWhile_suffix _).subset ((List.rdropWhile_prefix _ _).subset htrim)

/-- The words of a name have all its characters but the separators. -/
theorem mem_contentWords_iff {c : Char} : (∃ word ∈ contentWords s, c ∈ word) ↔
    c ∈ s ∧ isSeparator c = false := by
  rw [← List.mem_flatten, flatten_contentWords, List.mem_filter, Bool.not_eq_true']

/-- Letters and numbers are not stripped. -/
theorem isBlank_eq_false {c : Char} (h : (isLetter c || isNumber c) = true) : isBlank c = false := by
  by_contra hblank
  rw [Bool.not_eq_false] at hblank
  rw [isLetter_or_isNumber, wordClass?_of_isBlank hblank] at h
  exact Bool.noConfusion h

/-- Letters and numbers do not separate words. -/
theorem isSeparator_eq_false {c : Char} (h : (isLetter c || isNumber c) = true) :
    isSeparator c = false := by
  by_contra hsep
  rw [Bool.not_eq_false, isSeparator, Bool.or_eq_true, Bool.or_eq_true, beq_iff_eq, beq_iff_eq] at hsep
  rcases hsep with (hspace | rfl) | rfl
  · rw [isLetter_of_isWhiteSpace hspace, isNumber_of_isWhiteSpace hspace] at h
    exact Bool.noConfusion h
  · exact absurd h (by decide)
  · exact absurd h (by decide)

/-- A name with a letter or number has a form, which keeps the dot of a dotted capital. -/
theorem contentName_of_mem {c : Char} (h : c ∈ s) (hc : (isLetter c || isNumber c) = true) :
    contentName s ≠ [] ∧ (c = 'İ' → '\u0307' ∈ contentName s) := by
  have hblank := isBlank_eq_false hc
  have hsigil : c ≠ Word.sigil := by
    rintro rfl
    exact absurd hc (by decide)
  rcases mem_contentWords_iff.mpr ⟨mem_contentCore h hblank hsigil, isSeparator_eq_false hc⟩ with
    ⟨word, hword, hmem⟩
  have hne : (contentWords (contentCore s)).map lower ≠ [] := by
    simpa using List.ne_nil_of_mem hword
  rw [contentName_of_map_lower rfl hne]
  refine ⟨List.cons_ne_nil _ _, ?_⟩
  rintro rfl
  have hdot : '\u0307' ∈ lower word := dot_mem_lowerAfter hmem []
  exact List.mem_cons_of_mem _ ((isInfix_join (List.mem_map_of_mem hword)).subset hdot)

/-- A name without letters and numbers has no form. -/
theorem contentName_eq_nil (hs : ∀ c ∈ s, isSeparator c = true) : contentName s = [] := by
  have hcore : (contentCore s).all isSeparator = true :=
    List.all_eq_true.mpr fun c hc => hs c (mem_of_mem_contentCore hc)
  rw [contentName, contentWords_of_separators hcore]

theorem isHead_of_wordClass? {c : Char} (h : (wordClass? c).isSome = true) : Word.isHead c = true := by
  rw [← isLetter_or_isNumber] at h
  rw [Word.isHead, h, Bool.true_or]

/-! ### Names of letters, numbers and separators -/

section

variable (hs : ∀ c ∈ s, (isLetter c || isNumber c || isSeparator c) = true)

include hs

/-- The small forms of the words of a name are letters and numbers again, but for the dot. -/
theorem wordClass?_of_mem_words {word : Text}
    (hword : word ∈ (contentWords (contentCore s)).map lower) {d : Char} (h : d ∈ word) :
    (wordClass? d).isSome = true ∨ 'İ' ∈ s ∧ d = '\u0307' := by
  rcases List.mem_map.mp hword with ⟨piece, hpiece, rfl⟩
  have hchars : ∀ c ∈ piece, c ∈ s ∧ (wordClass? c).isSome = true := by
    intro c hc
    rcases mem_contentWords_iff.mp ⟨piece, hpiece, hc⟩ with ⟨hcore, hseparator⟩
    have hmem := mem_of_mem_contentCore hcore
    have hclass := hs c hmem
    rw [hseparator, Bool.or_false, isLetter_or_isNumber] at hclass
    exact ⟨hmem, hclass⟩
  rcases wordClass?_of_mem_lower (fun c hc => (hchars c hc).2) h with hclass | ⟨hdotted, hdot⟩
  · exact Or.inl hclass
  · exact Or.inr ⟨(hchars _ hdotted).1, hdot⟩

theorem mem_contentName {d : Char} (h : d ∈ contentName s) :
    d = Word.sigil ∨ d = '-' ∨ (wordClass? d).isSome = true ∨ 'İ' ∈ s ∧ d = '\u0307' := by
  rcases exists_words_of_contentName_ne_nil (List.ne_nil_of_mem h) with
    ⟨words, -, hwords, hname, -⟩
  rw [hname, List.mem_cons] at h
  rcases h with h | h
  · exact Or.inl h
  rcases mem_join h with h | ⟨word, hword, hd⟩
  · exact Or.inr (Or.inl (List.mem_singleton.mp h))
  · rw [hwords] at hword
    exact Or.inr (Or.inr (wordClass?_of_mem_words hs hword hd))

/-- The form of a name begins like a word. -/
theorem beginsWord_contentName (hdotted : 'İ' ∉ s) (hne : contentName s ≠ []) :
    Word.beginsWord (contentName s) = true := by
  rcases exists_words_of_contentName_ne_nil hne with ⟨words, hwordsNe, hwords, hname, hsmall⟩
  rcases List.exists_cons_of_ne_nil hwordsNe with ⟨word, rest, hfirst⟩
  have hword : word ∈ words := by simp [hfirst]
  rcases List.exists_cons_of_ne_nil (hsmall word hword).ne_nil with ⟨d, later, hd⟩
  have hhead : (join "-" words).head? = some d := by
    rw [hfirst]
    cases rest with
    | nil => simp [join, hd]
    | cons next rest => simp [join_cons_cons, hd]
  have hclass : (wordClass? d).isSome = true := by
    rcases wordClass?_of_mem_words hs (hwords ▸ hword) (d := d) (by simp [hd]) with
      hclass | ⟨hmem, -⟩
    · exact hclass
    · exact absurd hmem hdotted
  rw [hname, Word.beginsWord, hhead, Option.any_some, isHead_of_wordClass? hclass]
  simp

/-- The form of a name is a whole word, unless the name has a dotted capital. -/
theorem isToken_contentName (hne : contentName s ≠ []) :
    Word.isToken (contentName s) = true ↔ 'İ' ∉ s := by
  rw [Word.isToken, Bool.and_eq_true]
  constructor
  · -- the dot of a dotted capital is in the form, and no word character
    rintro ⟨hbody, -⟩ hdotted
    have hdot := (contentName_of_mem hdotted (by decide)).2 rfl
    exact absurd (List.all_eq_true.mp hbody _ hdot) (by decide)
  · intro hdotted
    refine ⟨?_, beginsWord_contentName hs hdotted hne⟩
    rw [List.all_eq_true]
    intro d hd
    rcases mem_contentName hs hd with rfl | rfl | hclass | ⟨hmem, -⟩
    · exact Word.isBody_sigil
    · decide
    · exact Word.isBody_of_isHead (isHead_of_wordClass? hclass)
    · exact absurd hmem hdotted

theorem start_notMem_contentName : Comment.start ∉ contentName s := by
  intro h
  rcases mem_contentName hs h with h | h | h | ⟨-, h⟩
  · exact absurd h (by decide)
  · exact absurd h (by decide)
  · exact absurd h (by decide)
  · exact absurd h (by decide)

end

end Naming

/-- The members of a content set with one name: its form, if it has one. -/
theorem VocabularySet.members_content (name category s : Text) :
    members ⟨name, category, "content", [s]⟩ .content =
      if Naming.contentName s = [] then [] else [Naming.contentName s] := by
  change ([Naming.contentName s].filter (· ≠ [])).eraseDups = _
  split
  · rename_i hnil
    rw [hnil]
    rfl
  · rename_i hne
    rw [List.filter_cons_of_pos (by simpa using hne)]
    rfl

namespace RuleTable

open Unicode

variable {s : Text}

/-- The form of a name on its own. -/
theorem classify_form (name category : Text)
    (hs : ∀ c ∈ s, (isLetter c || isNumber c || Naming.isSeparator c) = true)
    (hne : Naming.contentName s ≠ []) :
    classify (structural ++ [⟨name, category, .members [Naming.contentName s]⟩])
        (Naming.contentName s) 0 =
      if 'İ' ∈ s then [] else [⟨0, (Naming.contentName s).length, category⟩] := by
  rcases Naming.exists_words_of_contentName_ne_nil hne with ⟨words, -, -, hname, -⟩
  have hlabel : Label.spans (Naming.contentName s) = [] := by
    rw [hname]
    exact Label.spans_sigil _
  rw [classify_member name category (Naming.start_notMem_contentName hs) hlabel, Int.add_zero]
  by_cases hdotted : 'İ' ∈ s
  · rw [if_pos hdotted, if_neg fun htoken => (Naming.isToken_contentName hs hne).mp htoken hdotted]
  · rw [if_neg hdotted, if_pos ((Naming.isToken_contentName hs hne).mpr hdotted)]

/-- A content set with one name, of letters, numbers and separators: without letters and numbers it
has no members, and else one, which is annotated on its own, unless the name has a dotted capital. -/
theorem classify_contentName (name category s : Text)
    (hs : ∀ c ∈ s, (isLetter c || isNumber c || Naming.isSeparator c) = true) :
    ∃ table members, build [⟨name, category, "content", [s]⟩] = .ok table ∧
      table = structural ++ [⟨name, category, .members members⟩] ∧
      ((∀ c ∈ s, isLetter c = false ∧ isNumber c = false) ∧ members = [] ∨
        (∃ c ∈ s, (isLetter c || isNumber c) = true) ∧ ∃ member, members = [member] ∧
          table.classify member 0 =
            if 'İ' ∈ s then [] else [⟨0, member.length, category⟩]) := by
  refine ⟨_, VocabularySet.members ⟨name, category, "content", [s]⟩ .content, rfl, rfl, ?_⟩
  rw [VocabularySet.members_content]
  by_cases hsome : ∃ c ∈ s, (isLetter c || isNumber c) = true
  · right
    rcases hsome with ⟨c, hc, hclass⟩
    have hne := (Naming.contentName_of_mem hc hclass).1
    rw [if_neg hne]
    exact ⟨⟨c, hc, hclass⟩, _, rfl, classify_form name category hs hne⟩
  · left
    have hneither : ∀ c ∈ s, (isLetter c || isNumber c) = false := by
      intro c hc
      rw [← Bool.not_eq_true]
      exact fun hclass => hsome ⟨c, hc, hclass⟩
    have hseparators : ∀ c ∈ s, Naming.isSeparator c = true := by
      intro c hc
      have hclass := hs c hc
      rwa [hneither c hc, Bool.false_or] at hclass
    refine ⟨fun c hc => Bool.or_eq_false_iff.mp (hneither c hc), ?_⟩
    rw [if_pos (Naming.contentName_eq_nil hseparators)]

/-- A name of two words on its own. -/
theorem classify_contentName_memoryCell :
    (∀ c ∈ ("Memory Cell" : Text), (isLetter c || isNumber c || Naming.isSeparator c) = true) ∧
    ∃ table, build [⟨"blocks", "type", "content", ["Memory Cell"]⟩] = .ok table ∧
      ∃ member : Text, table.classify member 0 = [⟨0, member.length, "type"⟩] := by
  have hs : ∀ c ∈ ("Memory Cell" : Text),
      (isLetter c || isNumber c || Naming.isSeparator c) = true :=
    List.all_eq_true.mp (by decide)
  rcases classify_contentName "blocks" "type" "Memory Cell" hs with
    ⟨table, members, hbuild, -, ⟨hnone, -⟩ | ⟨-, member, -, hclassify⟩⟩
  · exact absurd (hnone 'M' (by decide)) (by decide)
  · refine ⟨hs, table, hbuild, member, ?_⟩
    rw [hclassify, if_neg (by decide)]

/-- The dotted capital is a letter, but in lowercase it leaves a dot that is no word character, so
the only member of the set is never found. -/
theorem classify_contentName_dotted :
    isLetter 'İ' = true ∧
    ∃ table, build [⟨"blocks", "type", "content", ["İ"]⟩] = .ok table ∧
      table = structural ++ [⟨"blocks", "type", .members ["@i\u0307"]⟩] ∧
      table.classify "@i\u0307" 0 = [] := by
  refine ⟨by decide, _, rfl, ?_, ?_⟩
  · decide
  · decide

end RuleTable

end MlogHighlight
