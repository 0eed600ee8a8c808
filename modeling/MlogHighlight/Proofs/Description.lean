import Mathlib.Data.List.Pairwise
import MlogHighlight.Proofs.Board
import MlogHighlight.Proofs.Mapping
import MlogHighlight.Proofs.Overlap

/-!
# A description of the marks

The table for a vocabulary marks the comments, the label, and the words of the vocabulary that are
neither in a comment nor the label, in the category of the first set that has them. The description
does not mention claims: in such a table a span that is turned down lies inside one that was kept
before. Main facts:

* `Naming.sigilName_eq_iff`: the form of a word with the sigil;
* `VocabularySet.has_of_none`, `VocabularySet.has_of_sigil`, `VocabularySet.has_of_content`: the words
  of a set, by its transform;
* `RuleTable.Describes.append`: the rules of a vocabulary mark what the description says;
* `RuleTable.exists_describes`, `RuleTable.describes_of_build`: the table for a vocabulary does so on
  every line;
* `RuleTable.candidates_nested`: no candidate overlaps an earlier one in a part of its characters;
* `RuleTable.classify_build`: the annotations of a line are those of the description.
-/

namespace MlogHighlight

/-! ## What is to be marked -/

namespace VocabularySet

/-- Is the word one of the set, in the form that the transform of the set gives it? -/
def has (set : VocabularySet) (word : Text) : Bool :=
  match Naming.Transform.ofName? set.transform with
  | none => false
  | some transform => (set.words.map transform.apply).contains word

end VocabularySet

/-- The form with the sigil begins with it, and is the word itself or has the word behind the
sigil. -/
theorem Naming.sigilName_eq_iff {s word : Text} : sigilName s = word ↔
    ∃ rest, word = '@' :: rest ∧ (s = word ∨ s = rest ∧ rest.head? ≠ some '@') := by
  unfold sigilName
  constructor
  · intro hname
    split at hname
    · rename_i hsigil
      rcases List.head?_eq_some_iff.mp hsigil with ⟨rest, hrest⟩
      exact ⟨rest, hname ▸ hrest, Or.inl hname⟩
    · rename_i hsigil
      exact ⟨s, hname.symm, Or.inr ⟨rfl, hsigil⟩⟩
  · rintro ⟨rest, rfl, rfl | ⟨rfl, hrest⟩⟩
    · exact if_pos rfl
    · exact if_neg hrest

namespace VocabularySet

variable {set : VocabularySet} {word : Text}

theorem has_iff {transform : Naming.Transform}
    (h : Naming.Transform.ofName? set.transform = some transform) :
    set.has word = true ↔ ∃ s ∈ set.words, transform.apply s = word := by
  simp only [has, h, List.contains_iff_mem, List.mem_map]

/-- Without a transform, a set has its words as they are. -/
theorem has_of_none (h : set.transform = "none") : set.has word = true ↔ word ∈ set.words := by
  have htransform : Naming.Transform.ofName? set.transform = some .none := by rw [h]; rfl
  simp [has_iff htransform, Naming.Transform.apply]

/-- With the sigil, a set has no words but those behind a sigil: the ones that are given with it,
and the ones that are given without. -/
theorem has_of_sigil (h : set.transform = "sigil") : set.has word = true ↔
    ∃ rest, word = '@' :: rest ∧
      (word ∈ set.words ∨ rest ∈ set.words ∧ rest.head? ≠ some '@') := by
  have htransform : Naming.Transform.ofName? set.transform = some .sigil := by rw [h]; rfl
  simp only [has_iff htransform, Naming.Transform.apply, Naming.sigilName_eq_iff]
  constructor
  · rintro ⟨s, hs, rest, hword, rfl | ⟨rfl, hrest⟩⟩
    · exact ⟨rest, hword, Or.inl hs⟩
    · exact ⟨s, hword, Or.inr ⟨hs, hrest⟩⟩
  · rintro ⟨rest, hword, hs | ⟨hs, hrest⟩⟩
    · exact ⟨word, hs, rest, hword, Or.inl rfl⟩
    · exact ⟨rest, hs, rest, hword, Or.inr ⟨rfl, hrest⟩⟩

/-- A set of content names has the forms of its names. -/
theorem has_of_content (h : set.transform = "content") :
    set.has word = true ↔ ∃ s ∈ set.words, Naming.contentName s = word := by
  have htransform : Naming.Transform.ofName? set.transform = some .content := by rw [h]; rfl
  exact has_iff htransform

end VocabularySet

namespace Vocabulary

/-- The category of the first set that has the word. -/
def category? (sets : Vocabulary) (word : Text) : Option Text :=
  (sets.find? (·.has word)).map (·.category)

/-- The mark is one of those that the vocabulary asks for: a comment, the label, or a word of the
vocabulary that is not in a comment and not the label. -/
inductive Marked (sets : Vocabulary) (line : Text) : Mark → Prop where
  | comment (span : Span) : span ∈ Comment.pattern.spans line →
      Marked sets line ⟨span, Category.comment.name⟩
  | label (span : Span) : span ∈ Label.spans line →
      Marked sets line ⟨span, Category.functionName.name⟩
  | word (span : Span) (category : Text) : span ∈ Word.pattern.spans line →
      (∀ comment ∈ Comment.pattern.spans line, ¬ span.Inside comment) → span ∉ Label.spans line →
      sets.category? (span.content line) = some category → Marked sets line ⟨span, category⟩

end Vocabulary

instance (a b : Span) : Decidable (a.Inside b) :=
  inferInstanceAs (Decidable (b.start ≤ a.start ∧ a.stop ≤ b.stop))

namespace Vocabulary

/-- The marks of the words of a line. -/
def wordMarks (sets : Vocabulary) (line : Text) : List Mark :=
  (Word.pattern.spans line).filterMap fun span =>
    if (∃ comment ∈ Comment.pattern.spans line, span.Inside comment) ∨ span ∈ Label.spans line then
      none
    else (sets.category? (span.content line)).map (⟨span, ·⟩)

/-- The marks of the comments, the label and the words of a line. -/
def allMarks (sets : Vocabulary) (line : Text) : List Mark :=
  (Comment.pattern.spans line).map (Mark.mk · Category.comment.name) ++
    (Label.spans line).map (Mark.mk · Category.functionName.name) ++ sets.wordMarks line

/-- The marks of a line, sorted by start. -/
def description (sets : Vocabulary) (line : Text) : List Mark :=
  (sets.allMarks line).mergeSort fun a b => a.span.start ≤ b.span.start

variable {sets : Vocabulary} {line : Text} {m : Mark} {word : Text}

theorem category?_concat_of_some {set : VocabularySet} {category : Text}
    (h : sets.category? word = some category) :
    category? (sets ++ [set]) word = some category := by
  unfold category? at h ⊢
  rcases Option.map_eq_some_iff.mp h with ⟨first, hfirst, rfl⟩
  rw [List.find?_append, hfirst]
  rfl

theorem category?_concat_of_none {set : VocabularySet} (h : sets.category? word = none) :
    category? (sets ++ [set]) word = if set.has word then some set.category else none := by
  unfold category? at h ⊢
  rw [List.find?_append, Option.map_eq_none_iff.mp h, Option.none_or, List.find?_singleton]
  split <;> rfl

theorem mem_wordMarks : m ∈ sets.wordMarks line ↔ m.span ∈ Word.pattern.spans line ∧
    (∀ comment ∈ Comment.pattern.spans line, ¬ m.span.Inside comment) ∧
    m.span ∉ Label.spans line ∧ sets.category? (m.span.content line) = some m.category := by
  unfold wordMarks
  rw [List.mem_filterMap]
  constructor
  · intro h
    rcases h with ⟨span, hspan, hmark⟩
    split at hmark
    · simp at hmark
    · rename_i hfree
      rcases Option.map_eq_some_iff.mp hmark with ⟨category, hcategory, rfl⟩
      simp only [not_or, not_exists, not_and] at hfree
      exact ⟨hspan, hfree.1, hfree.2, hcategory⟩
  · intro h
    rcases h with ⟨hspan, hcomment, hlabel, hcategory⟩
    refine ⟨m.span, hspan, ?_⟩
    rw [if_neg (by simpa [not_or] using ⟨hcomment, hlabel⟩), hcategory]
    rfl

theorem mem_allMarks : m ∈ sets.allMarks line ↔ sets.Marked line m := by
  unfold allMarks
  rw [List.mem_append, List.mem_append, List.mem_map, List.mem_map, mem_wordMarks]
  constructor
  · intro h
    rcases h with (⟨span, hspan, rfl⟩ | ⟨span, hspan, rfl⟩) | ⟨hspan, hcomment, hlabel, hcategory⟩
    · exact Marked.comment span hspan
    · exact Marked.label span hspan
    · exact Marked.word m.span m.category hspan hcomment hlabel hcategory
  · intro h
    rcases h with ⟨span, hspan⟩ | ⟨span, hspan⟩ | ⟨span, category, hspan, hcomment, hlabel, hcategory⟩
    · exact Or.inl (Or.inl ⟨span, hspan, rfl⟩)
    · exact Or.inl (Or.inr ⟨span, hspan, rfl⟩)
    · exact Or.inr ⟨hspan, hcomment, hlabel, hcategory⟩

@[simp] theorem wordMarks_nil (line : Text) : wordMarks [] line = [] := by
  simp [wordMarks, category?]

/-- The words that are to be marked are apart from each other. -/
theorem wordMarks_pairwise (sets : Vocabulary) (line : Text) :
    (sets.wordMarks line).Pairwise fun a b => a.span.Apart b.span := by
  unfold wordMarks
  rw [List.pairwise_filterMap]
  apply (Pattern.spans_pairwise Word.pattern line).imp
  intro a b hab m hm k hk
  split at hm
  · simp at hm
  · split at hk
    · simp at hk
    · rcases Option.map_eq_some_iff.mp hm with ⟨category, -, rfl⟩
      rcases Option.map_eq_some_iff.mp hk with ⟨category', -, rfl⟩
      exact Or.inl hab

theorem label_apart_of_ne {label span : Span} (hlabel : label ∈ Label.spans line)
    (hspan : span ∈ Word.pattern.spans line) (hne : span ∉ Label.spans line) : label.Apart span := by
  rcases Span.eq_or_apart (Pattern.spans_pairwise _ line) (Label.mem_wordSpans hlabel) hspan with
    rfl | hapart
  · exact absurd hlabel hne
  · exact hapart

/-- The marks of a line are apart from each other. -/
theorem allMarks_pairwise (sets : Vocabulary) (line : Text) :
    (sets.allMarks line).Pairwise fun a b => a.span.Apart b.span := by
  unfold allMarks
  refine List.pairwise_append.mpr ⟨List.pairwise_append.mpr ⟨?_, ?_, ?_⟩, ?_, ?_⟩
  · rw [List.pairwise_map]
    exact (Pattern.spans_pairwise _ line).imp Or.inl
  · rw [List.pairwise_map]
    have hlength := Label.length_spans_le line
    cases hlabels : Label.spans line with
    | nil => exact List.Pairwise.nil
    | cons label labels =>
      rw [hlabels, List.length_cons] at hlength
      obtain rfl : labels = [] := List.length_eq_zero_iff.mp (by omega)
      exact List.pairwise_singleton _ _
  · intro a ha b hb
    rcases List.mem_map.mp ha with ⟨comment, hcomment, rfl⟩
    rcases List.mem_map.mp hb with ⟨label, hlabel, rfl⟩
    exact (Label.apart_of_comment hlabel hcomment).symm
  · exact sets.wordMarks_pairwise line
  · intro a ha b hb
    rcases mem_wordMarks.mp hb with ⟨hspan, hcomment, hlabel, -⟩
    rcases List.mem_append.mp ha with ha | ha
    · rcases List.mem_map.mp ha with ⟨comment, hcomment', rfl⟩
      rcases Word.inside_or_apart hspan hcomment' with hinside | hapart
      · exact absurd hinside (hcomment comment hcomment')
      · exact hapart.symm
    · rcases List.mem_map.mp ha with ⟨label, hlabel', rfl⟩
      exact label_apart_of_ne hlabel' hspan hlabel

theorem nonempty_of_marked (h : sets.Marked line m) : m.span.start < m.span.stop := by
  cases h with
  | comment span hspan => exact (Pattern.bounds_of_mem_spans _ hspan).1
  | label span hspan => exact (Pattern.bounds_of_mem_spans _ (Label.mem_wordSpans hspan)).1
  | word span category hspan => exact (Pattern.bounds_of_mem_spans _ hspan).1

theorem allMarks_nodup (sets : Vocabulary) (line : Text) : (sets.allMarks line).Nodup := by
  apply (sets.allMarks_pairwise line).imp_of_mem
  rintro a b ha hb hapart rfl
  have hne := nonempty_of_marked (mem_allMarks.mp ha)
  rcases hapart with hapart | hapart <;> omega

end Vocabulary

/-! ## Tables that mark what is described -/

namespace RuleTable

variable {table : RuleTable} {sets : Vocabulary} {line : Text} {m : Mark}

/-- The table marks what the vocabulary asks for. -/
def Describes (table : RuleTable) (sets : Vocabulary) (line : Text) : Prop :=
  ∀ m, m ∈ table.marks line ↔ sets.Marked line m

theorem candidates_structural (line : Text) :
    candidates structural line = Vocabulary.allMarks [] line := by
  simp [candidates, structural, Rule.marks, Matcher.spans, Vocabulary.allMarks, Label.spans,
    Comment.spans_pattern, Label.spans_definitionPattern, Label.spans_referencePattern,
    Function.comp_def]

/-- Without a vocabulary, comments and labels are marked. -/
theorem describes_structural (line : Text) : Describes structural [] line := by
  intro m
  have hpairwise := Vocabulary.allMarks_pairwise [] line
  rw [← candidates_structural] at hpairwise
  rw [marks, Mark.mem_foldl_claim hpairwise, candidates_structural, Vocabulary.mem_allMarks]
  simp

/-- The rule of a set marks the words that the set has. -/
theorem mem_marks_of_rule {set : VocabularySet} {rule : Rule} (h : set.rule = .ok rule) :
    m ∈ rule.marks line ↔ m.span ∈ Word.pattern.spans line ∧
      set.has (m.span.content line) = true ∧ m.category = set.category := by
  unfold VocabularySet.rule at h
  unfold VocabularySet.has
  cases htransform : Naming.Transform.ofName? set.transform with
  | none => simp [htransform] at h
  | some transform =>
    simp only [htransform, Except.ok.injEq] at h
    subst h
    rw [Rule.mem_marks, Matcher.spans_eq, List.mem_filter, and_assoc]
    constructor
    · rintro ⟨hspan, haccepts, hcategory⟩
      rw [Matcher.accepts, List.contains_iff_mem, VocabularySet.members, List.mem_eraseDups,
        List.mem_filter] at haccepts
      exact ⟨hspan, List.contains_iff_mem.mpr haccepts.1, hcategory⟩
    · rintro ⟨hspan, hhas, hcategory⟩
      have hne : m.span.content line ≠ [] := Span.content_ne_nil (Pattern.bounds_of_mem_spans _ hspan)
      refine ⟨hspan, ?_, hcategory⟩
      rw [Matcher.accepts, List.contains_iff_mem, VocabularySet.members, List.mem_eraseDups,
        List.mem_filter]
      exact ⟨List.contains_iff_mem.mp hhas, by simpa using hne⟩

/-- One more set adds its words, unless earlier sets have them. -/
theorem Describes.concat {set : VocabularySet} {rule : Rule} (h : Describes table sets line)
    (hrule : set.rule = .ok rule) : Describes (table ++ [rule]) (sets ++ [set]) line := by
  intro m
  rw [mem_marks_concat, mem_marks_of_rule hrule]
  constructor
  · rintro (hm | ⟨⟨hspan, hhas, hcategory⟩, hapart⟩)
    · -- marked before, by the same category of the same set
      cases (h m).mp hm with
      | comment span hspan => exact Vocabulary.Marked.comment span hspan
      | label span hspan => exact Vocabulary.Marked.label span hspan
      | word span category hspan hcomment hlabel hcategory =>
        exact Vocabulary.Marked.word span category hspan hcomment hlabel
          (Vocabulary.category?_concat_of_some hcategory)
    · -- marked by the new rule: what is apart from all marks is none of the things marked before
      have hne := (Pattern.bounds_of_mem_spans _ hspan).1
      have hfresh : ∀ k ∈ table.marks line, ¬ m.span.Inside k.span := by
        intro k hk hinside
        exact Span.not_apart_of_inside hne hinside (hapart k hk).symm
      have hcomment : ∀ comment ∈ Comment.pattern.spans line, ¬ m.span.Inside comment := by
        intro comment hcomment
        exact hfresh _ ((h _).mpr (Vocabulary.Marked.comment comment hcomment))
      have hlabel : m.span ∉ Label.spans line := by
        intro hlabel
        exact hfresh _ ((h _).mpr (Vocabulary.Marked.label m.span hlabel)) (Span.Inside.refl _)
      have hnone : sets.category? (m.span.content line) = none := by
        rw [Option.eq_none_iff_forall_ne_some]
        intro category hcategory
        have hmarked := Vocabulary.Marked.word m.span category hspan hcomment hlabel hcategory
        exact hfresh _ ((h _).mpr hmarked) (Span.Inside.refl _)
      refine Vocabulary.Marked.word m.span m.category hspan hcomment hlabel ?_
      rw [Vocabulary.category?_concat_of_none hnone, if_pos hhas, hcategory]
  · rintro (⟨span, hspan⟩ | ⟨span, hspan⟩ | ⟨span, category, hspan, hcomment, hlabel, hcategory⟩)
    · exact Or.inl ((h _).mpr (Vocabulary.Marked.comment span hspan))
    · exact Or.inl ((h _).mpr (Vocabulary.Marked.label span hspan))
    · cases hearlier : sets.category? (span.content line) with
      | some category' =>
        rw [Vocabulary.category?_concat_of_some hearlier, Option.some.injEq] at hcategory
        subst hcategory
        have hmarked := Vocabulary.Marked.word span category' hspan hcomment hlabel hearlier
        exact Or.inl ((h _).mpr hmarked)
      | none =>
        rw [Vocabulary.category?_concat_of_none hearlier] at hcategory
        split at hcategory
        · rename_i hhas
          refine Or.inr ⟨⟨hspan, hhas, (Option.some.inj hcategory).symm⟩, ?_⟩
          intro k hk
          cases (h k).mp hk with
          | comment comment hmem =>
            rcases Word.inside_or_apart hspan hmem with hinside | hapart
            · exact absurd hinside (hcomment comment hmem)
            · exact hapart.symm
          | label label hmem => exact Vocabulary.label_apart_of_ne hmem hspan hlabel
          | word word category' hmem _ _ hcategory' =>
            rcases Span.eq_or_apart (Pattern.spans_pairwise _ line) hmem hspan with rfl | hapart
            · rw [hearlier] at hcategory'
              simp at hcategory'
            · exact hapart
        · simp at hcategory

/-- The rules of a vocabulary add the words of its sets. -/
theorem Describes.append {later : Vocabulary} {rules : RuleTable} (h : Describes table sets line)
    (hrules : List.Forall₂ (fun set rule => VocabularySet.rule set = .ok rule) later rules) :
    Describes (table ++ rules) (sets ++ later) line := by
  induction hrules generalizing table sets with
  | nil => simpa using h
  | cons hrule _ ih =>
    have hconcat := ih (h.concat hrule)
    simpa only [List.append_assoc, List.singleton_append] using hconcat

/-- The table for a vocabulary marks what the vocabulary asks for. -/
theorem exists_describes (sets : Vocabulary)
    (transforms : ∀ set ∈ sets, ∃ transform, Naming.Transform.ofName? set.transform = some transform) :
    ∃ table, build sets = .ok table ∧ ∀ line, Describes table sets line := by
  have hrule : ∀ set ∈ sets, ∃ rule, VocabularySet.rule set = .ok rule := by
    intro set hset
    rcases transforms set hset with ⟨transform, htransform⟩
    exact ⟨_, by rw [VocabularySet.rule, htransform]⟩
  rcases exists_mapM_eq_ok hrule with ⟨rules, hmap, hrules⟩
  refine ⟨structural ++ rules, ?_, ?_⟩
  · rw [build, hmap]
    rfl
  · intro line
    simpa using (describes_structural line).append hrules

theorem describes_of_build (h : build sets = .ok table) (line : Text) :
    Describes table sets line := by
  cases hmap : sets.mapM VocabularySet.rule with
  | error e =>
    simp [build, hmap, Except.map] at h
  | ok rules =>
    rw [build, hmap] at h
    obtain rfl : structural ++ rules = table := Except.ok.inj h
    simpa using (describes_structural line).append (forall₂_of_mapM_eq_ok hmap)

theorem span_of_mem_candidates {later : Vocabulary} {rules : RuleTable}
    (hrules : List.Forall₂ (fun set rule => VocabularySet.rule set = .ok rule) later rules)
    (h : m ∈ rules.candidates line) : m.span ∈ Word.pattern.spans line := by
  induction hrules with
  | nil => simp [candidates] at h
  | cons hrule _ ih =>
    rw [candidates, List.flatMap_cons, List.mem_append] at h
    rcases h with h | h
    · exact ((mem_marks_of_rule hrule).mp h).1
    · exact ih h

/-- No mark that a rule would make sticks out of an earlier one. -/
theorem candidates_nested {later : Vocabulary} {rules : RuleTable}
    (hrules : List.Forall₂ (fun set rule => VocabularySet.rule set = .ok rule) later rules)
    (line : Text) : (candidates (structural ++ rules) line).Pairwise Board.Nested := by
  have hsplit : candidates (structural ++ rules) line =
      (Comment.pattern.spans line).map (Mark.mk · Category.comment.name) ++
        ((Label.spans line).map (Mark.mk · Category.functionName.name) ++ rules.candidates line) := by
    rw [candidates, List.flatMap_append]
    change candidates structural line ++ rules.candidates line = _
    rw [candidates_structural, Vocabulary.allMarks, Vocabulary.wordMarks_nil, List.append_nil,
      List.append_assoc]
  have hwords : ∀ m ∈ (Label.spans line).map (Mark.mk · Category.functionName.name) ++
      rules.candidates line, m.span ∈ Word.pattern.spans line := by
    intro m hm
    rcases List.mem_append.mp hm with hm | hm
    · rcases List.mem_map.mp hm with ⟨label, hlabel, rfl⟩
      exact Label.mem_wordSpans hlabel
    · exact span_of_mem_candidates hrules hm
  rw [hsplit]
  refine List.pairwise_append.mpr ⟨?_, ?_, ?_⟩
  · rw [List.pairwise_map]
    exact (Pattern.spans_pairwise _ line).imp fun hab => Or.inr (Or.inl hab)
  · apply List.pairwise_of_forall_mem_list
    intro a ha b hb
    rcases Span.eq_or_apart (Pattern.spans_pairwise _ line) (hwords a ha) (hwords b hb) with
      heq | hapart
    · left
      rw [heq]
      exact Span.Inside.refl _
    · exact Or.inr hapart
  · intro a ha b hb
    rcases List.mem_map.mp ha with ⟨comment, hcomment, rfl⟩
    rcases Word.inside_or_apart (hwords b hb) hcomment with hinside | hapart
    · exact Or.inl hinside
    · exact Or.inr hapart.symm

/-- The marks of a table that describes a vocabulary are those of the description, in order. -/
theorem marks_eq_description (h : Describes table sets line) :
    table.marks line = sets.description line := by
  have hseparate := table.marks_separate line
  have hperm : (table.marks line).Perm (sets.description line) := by
    refine List.Perm.trans ?_ (List.mergeSort_perm ..).symm
    rw [List.perm_ext_iff_of_nodup hseparate.nodup (sets.allMarks_nodup line)]
    intro m
    rw [h m, Vocabulary.mem_allMarks]
  have hordered : (table.marks line).Pairwise fun a b => a.span.start ≤ b.span.start := by
    apply hseparate.ordered.imp_of_mem
    intro a b ha hb hab
    have hne := hseparate.nonempty a ha
    omega
  have hsorted : (sets.description line).Pairwise fun a b => a.span.start ≤ b.span.start :=
    pairwise_mergeSort_key (fun m : Mark => m.span.start) _
  refine hperm.eq_of_pairwise ?_ hordered hsorted
  intro a b ha hb hab hba
  exact hseparate.eq_of_start_eq ha (hperm.mem_iff.mpr hb) (Nat.le_antisymm hab hba)

/-- A line is annotated with its comments, its label and the words of the vocabulary that are
neither in a comment nor the label, each word in the category of the first set that has it. The
label is a whole word in front of all comments, a word lies inside a comment or is apart from it,
and so the board never turns a span down for a part of its characters only. -/
theorem classify_build (sets : Vocabulary)
    (known : ∀ set ∈ sets, ∃ transform, Naming.Transform.ofName? set.transform = some transform)
    (line : Text) :
    ∃ table, build sets = .ok table ∧
      (∀ offset, table.classify line offset = (sets.description line).map (·.annotate offset) ∧
        Board.classify table line offset = (sets.description line).map (·.annotate offset)) ∧
      (∀ span, span ∈ Comment.pattern.spans line ↔ Comment.IsComment line span) ∧
      (Label.spans line).length ≤ 1 ∧
      (∀ label ∈ Label.spans line, label ∈ Word.pattern.spans line ∧
        ∀ comment ∈ Comment.pattern.spans line, label.Apart comment) ∧
      (∀ word ∈ Word.pattern.spans line, ∀ comment ∈ Comment.pattern.spans line,
        word.Inside comment ∨ word.Apart comment) ∧
      ∀ before m after, table.candidates line = before ++ m :: after →
        (∀ i, m.span.Has i →
          (before.foldl Board.offer (Board.start line)).taken[i]? = some true) ∨
        ∀ i, m.span.Has i →
          (before.foldl Board.offer (Board.start line)).taken[i]? = some false := by
  have hrule : ∀ set ∈ sets, ∃ rule, VocabularySet.rule set = .ok rule := by
    intro set hset
    rcases known set hset with ⟨transform, htransform⟩
    exact ⟨_, by rw [VocabularySet.rule, htransform]⟩
  rcases exists_mapM_eq_ok hrule with ⟨rules, hmap, hrules⟩
  have hdescribes : Describes (structural ++ rules) sets line := by
    simpa using (describes_structural line).append hrules
  have hclassify : ∀ offset, classify (structural ++ rules) line offset =
      (sets.description line).map (·.annotate offset) := by
    intro offset
    rw [classify, marks_eq_description hdescribes]
  refine ⟨structural ++ rules, ?_, ?_, ?_, ?_, ?_, ?_, ?_⟩
  · rw [build, hmap]
    rfl
  · intro offset
    exact ⟨hclassify offset, (Board.classify_eq _ line offset).trans (hclassify offset)⟩
  · intro span
    rw [Comment.spans_pattern, Comment.mem_spans]
  · exact Label.length_spans_le line
  · intro label hlabel
    exact ⟨Label.mem_wordSpans hlabel, fun comment hcomment => Label.apart_of_comment hlabel hcomment⟩
  · intro word hword comment hcomment
    exact Word.inside_or_apart hword hcomment
  · intro before m after hcandidates
    have hbounds : ∀ k ∈ before ++ m :: after,
        k.span.start < k.span.stop ∧ k.span.stop ≤ line.length := by
      intro k hk
      rw [← hcandidates] at hk
      exact bounds_of_mem_candidates hk
    have hnested := candidates_nested hrules line
    rw [hcandidates, List.append_cons, List.pairwise_append] at hnested
    exact Board.all_or_none_of_nested hnested.1 (fun k hk => hbounds k (by simp [hk]))
      (hbounds m (by simp)).2

/-- A jump to a label that is a word of the first set as well, like the word of the comment. The
second set has its words with the sigil, so it has nothing to do with the word without it. -/
theorem classify_build_jump :
    (∀ set ∈ ([⟨"words", "keyword", "none", ["jump", "end"]⟩,
        ⟨"units", "type", "sigil", ["unit", "@end"]⟩] : Vocabulary),
      ∃ transform, Naming.Transform.ofName? set.transform = some transform) ∧
    ∃ table, build [⟨"words", "keyword", "none", ["jump", "end"]⟩,
        ⟨"units", "type", "sigil", ["unit", "@end"]⟩] = .ok table ∧
      table.classify "jump end @unit unit @end # end" 0 = [⟨0, 4, "keyword"⟩,
        ⟨5, 8, "function-name"⟩, ⟨9, 14, "type"⟩, ⟨20, 24, "type"⟩, ⟨25, 30, "comment"⟩] := by
  have known : ∀ set ∈ ([⟨"words", "keyword", "none", ["jump", "end"]⟩,
      ⟨"units", "type", "sigil", ["unit", "@end"]⟩] : Vocabulary),
      ∃ transform, Naming.Transform.ofName? set.transform = some transform := by
    intro set hset
    simp only [List.mem_cons, List.not_mem_nil, or_false] at hset
    rcases hset with rfl | rfl
    · exact ⟨.none, rfl⟩
    · exact ⟨.sigil, rfl⟩
  have hmarks : Vocabulary.allMarks [⟨"words", "keyword", "none", ["jump", "end"]⟩,
      ⟨"units", "type", "sigil", ["unit", "@end"]⟩] "jump end @unit unit @end # end" =
      [⟨⟨25, 30⟩, "comment"⟩, ⟨⟨5, 8⟩, "function-name"⟩, ⟨⟨0, 4⟩, "keyword"⟩,
        ⟨⟨9, 14⟩, "type"⟩, ⟨⟨20, 24⟩, "type"⟩] := by
    decide +kernel
  rcases classify_build _ known "jump end @unit unit @end # end" with ⟨table, hbuild, hclassify, -⟩
  refine ⟨known, table, hbuild, ?_⟩
  rw [(hclassify 0).1, Vocabulary.description, hmarks]
  simp [List.mergeSort, Mark.annotate]

end RuleTable

end MlogHighlight
