import MlogHighlight.Proofs.Description
import MlogHighlight.Proofs.WholeWord

/-!
# What a label is

Three readers decide what a label is: one for lines that define a label, one for lines that refer to
one, and one for a text on its own. They agree, and no way of matching a line captures less than the
whole label. Main facts:

* `Label.isLabel_iff_matchesWhole`: a text is a label if the pattern of labels matches all of it;
* `Label.IsDefinition.unique`, `Label.IsReference.unique`: a line has one label at most;
* `Label.mem_marks_of_span`: which texts are marked as a label of a line;
* `Label.rules_agree`: the three readers agree.
-/

namespace MlogHighlight

open Text

/-- The pattern matches the whole text: one of the ways to match at its start ends at its end. -/
def Pattern.MatchesWhole (pattern : Pattern) (s : Text) : Prop :=
  ∃ m ∈ pattern.matchesAt ⟨[], s⟩, m.stop.after = []

namespace Label

open Pattern Unicode

/-- The pattern of labels, `[\p{L}_][\p{L}\p{N}_-]*`. -/
def namePattern : Pattern where
  captured := [.one isHead, .many isBody]

/-- A text is a label if the pattern of labels matches all of it. -/
theorem isLabel_iff_matchesWhole {name : Text} :
    isLabel name = true ↔ namePattern.MatchesWhole name := by
  simp only [MatchesWhole, mem_matchesAt, namePattern, mem_ends_label, ends_nil, List.mem_singleton]
  constructor
  · intro h
    refine ⟨⟨⟨0, name.length⟩, Cursor.pass ⟨[], name⟩ name []⟩, ⟨_, rfl, _, ⟨name, [], ?_, h, rfl⟩,
      rfl, ?_⟩, rfl⟩
    · exact (List.append_nil name).symm
    · rw [Cursor.position_pass, Cursor.position_start, Nat.zero_add]
  · rintro ⟨m, ⟨first, rfl, last, ⟨word, rest, hword, hlabel, rfl⟩, hstop, -⟩, hafter⟩
    rw [hstop, Cursor.after_pass] at hafter
    obtain rfl : name = word := by rw [show name = word ++ rest from hword, hafter, List.append_nil]
    exact hlabel

/-! ## The label of a line -/

variable {line : Text} {label label' : Passage} {span : Span}

theorem IsDefinition.unique (h : IsDefinition line label) (h' : IsDefinition line label') :
    label = label' := by
  rw [← definition?_eq_some] at h h'
  exact Option.some.inj (h.symm.trans h')

theorem IsReference.unique (h : IsReference line label) (h' : IsReference line label') :
    label = label' := by
  rw [← reference?_eq_some] at h h'
  exact Option.some.inj (h.symm.trans h')

/-- The line defines the label or refers to it. -/
def IsLabelOf (line : Text) (label : Passage) : Prop := IsDefinition line label ∨ IsReference line label

theorem isLabelOf_iff : IsLabelOf line label ↔
    definition? line = some label ∨ reference? line = some label := by
  rw [IsLabelOf, definition?_eq_some, reference?_eq_some]

/-- No line defines a label and refers to one, even the same. -/
theorem not_isReference (h : IsDefinition line label) : ¬ IsReference line label' := by
  intro h'
  rw [← definition?_eq_some] at h
  rw [← reference?_eq_some] at h'
  rw [definition?_eq_none_of_reference? h'] at h
  simp at h

/-- A line has one label at most. -/
theorem IsLabelOf.unique (h : IsLabelOf line label) (h' : IsLabelOf line label') : label = label' := by
  rcases h with h | h
  · rcases h' with h' | h'
    · exact h.unique h'
    · exact absurd h' (not_isReference h)
  · rcases h' with h' | h'
    · exact absurd h (not_isReference h')
    · exact h.unique h'

theorem mem_spans_labelDefinition : span ∈ Matcher.labelDefinition.spans line ↔
    ∃ label, IsDefinition line label ∧ label.span = span := by
  simp only [Matcher.spans, List.mem_map, Option.mem_toList, definition?_eq_some]

theorem mem_spans_labelReference : span ∈ Matcher.labelReference.spans line ↔
    ∃ label, IsReference line label ∧ label.span = span := by
  simp only [Matcher.spans, List.mem_map, Option.mem_toList, reference?_eq_some]

theorem IsDefinition.spans (h : IsDefinition line label) :
    Matcher.labelDefinition.spans line = [label.span] := by
  rw [Matcher.spans, definition?_eq_some.mpr h]
  rfl

theorem IsReference.spans (h : IsReference line label) :
    Matcher.labelReference.spans line = [label.span] := by
  rw [Matcher.spans, reference?_eq_some.mpr h]
  rfl

/-- The rules for labels find the label of the line. -/
theorem spans_rules (line : Text) :
    Matcher.labelDefinition.spans line ++ Matcher.labelReference.spans line = spans line := by
  rw [spans, spans_definitionPattern, spans_referencePattern]
  rfl

/-- The label of a line is a text that is a label, and is what the line has at its place. -/
theorem content_of_isLabelOf (h : IsLabelOf line label) :
    label.span.content line = label.text ∧ isLabel label.text = true := by
  rw [isLabelOf_iff] at h
  rcases h with h | h
  · rcases definition?_eq_some.mp h with ⟨_, _, _, _, _, hlabel, _⟩
    exact ⟨content_of_isRun (isRun_of_definition? h), hlabel⟩
  · rcases reference?_eq_some.mp h with ⟨_, _, _, _, _, _, _, _, hlabel, _⟩
    exact ⟨content_of_isRun (isRun_of_reference? h), hlabel⟩

/-- What a line has at the place of its label is a label. -/
theorem isLabel_of_span (h : IsLabelOf line label) {name : Passage}
    (hname : name.span.content line = name.text) (hspan : label.span = name.span) :
    isLabel name.text = true := by
  rcases content_of_isLabelOf h with ⟨hcontent, hlabel⟩
  rwa [← hname, ← hspan, hcontent]

/-- Behind a label, a colon and the end of the line make it a definition. -/
theorem isDefinition_colon {name : Text} (h : isLabel name = true) :
    IsDefinition (name ++ ":") ⟨0, name⟩ :=
  ⟨[], [], rfl, rfl, rfl, h, rfl⟩

/-- In front of a label, `jump` makes it a reference. -/
theorem isReference_jump {name : Text} (h : isLabel name = true) :
    IsReference ("jump " ++ name) ⟨5, name⟩ :=
  ⟨[], [' '], [], (List.append_nil _).symm, rfl, rfl, by decide, by decide, h, rfl⟩

/-! ## Labels that are marked -/

/-- A category that no set of a vocabulary has is not the category of a word. -/
theorem category?_ne {sets : Vocabulary} {category : Text} (h : ∀ set ∈ sets, set.category ≠ category)
    (word : Text) : sets.category? word ≠ some category := by
  intro hcategory
  rcases Option.map_eq_some_iff.mp hcategory with ⟨set, hset, heq⟩
  exact h set (List.mem_of_find?_eq_some hset) heq

/-- Where words are no function names, a part of a line that is marked as one is a label of the
line, so it is marked just if it is a label. -/
theorem mem_marks_of_span {sets : Vocabulary} {table : RuleTable}
    (hbuild : RuleTable.build sets = .ok table)
    (hwords : ∀ set ∈ sets, set.category ≠ Category.functionName.name) {name : Passage}
    (hname : name.span.content line = name.text)
    (hlabel : isLabel name.text = true → IsLabelOf line name) :
    (⟨name.span, Category.functionName.name⟩ : Mark) ∈ table.marks line ↔
      isLabel name.text = true := by
  have hdescribes := RuleTable.describes_of_build hbuild line
  rw [hdescribes]
  constructor
  · generalize hm : (⟨name.span, Category.functionName.name⟩ : Mark) = m
    intro h
    cases h with
    | comment comment hcomment =>
      have hcategory : Category.functionName.name = Category.comment.name :=
        congrArg Mark.category hm
      exact absurd hcategory (by decide)
    | label found hfound =>
      rcases mem_spans.mp hfound with ⟨label, hline, rfl⟩
      exact isLabel_of_span (isLabelOf_iff.mpr hline) hname (congrArg Mark.span hm).symm
    | word found category hfound hfree hnone hcategory =>
      obtain rfl : Category.functionName.name = category := congrArg Mark.category hm
      exact absurd hcategory (category?_ne hwords _)
  · intro h
    exact Vocabulary.Marked.label name.span (mem_spans.mpr ⟨name, isLabelOf_iff.mp (hlabel h), rfl⟩)

end Label

/-- A mark is annotated just if it is made. -/
theorem RuleTable.annotate_mem_classify {table : RuleTable} {line : Text} {m : Mark} {offset : Int} :
    m.annotate offset ∈ table.classify line offset ↔ m ∈ table.marks line := by
  constructor
  · intro h
    rcases List.mem_map.mp h with ⟨k, hk, heq⟩
    simp only [Mark.annotate, Annotation.mk.injEq] at heq
    have hspan : k.span = m.span := by
      rcases hks : k.span with ⟨start, stop⟩
      rcases hms : m.span with ⟨start', stop'⟩
      simp only [hks, hms] at heq
      rw [Span.mk.injEq]
      omega
    obtain rfl : k = m := by
      cases k
      cases m
      simp_all
    exact hk
  · intro h
    exact List.mem_map_of_mem h

/-- The rules for labels and the test of a text on its own agree on what a label is. A line has a
label if it is one with a colon behind it, apart from white space at both ends, or begins with `jump`,
white space and a label, which white space, a comment or the end of the line follows. There is only
one label for which this can be so, every way in which a pattern matches the line captures that label,
and the label is one of the words of the line. So a text is found as the label of the line with a
colon behind it, and of the line with `jump` in front of it, just if the pattern of labels matches
all of it; and it is annotated there then, as long as the vocabulary has no function names. -/
theorem Label.rules_agree (line name : Text) :
    (∀ span, span ∈ Matcher.labelDefinition.spans line ↔
      ∃ label, IsDefinition line label ∧ label.span = span) ∧
    (∀ span, span ∈ Matcher.labelReference.spans line ↔
      ∃ label, IsReference line label ∧ label.span = span) ∧
    (∀ label label', IsLabelOf line label → IsLabelOf line label' → label = label') ∧
    (Matcher.labelDefinition.spans line ++ Matcher.labelReference.spans line).length ≤ 1 ∧
    (∀ m ∈ definitionPattern.matchesAt ⟨[], line⟩,
      Matcher.labelDefinition.spans line = [m.captured]) ∧
    (∀ m ∈ referencePattern.matchesAt ⟨[], line⟩,
      Matcher.labelReference.spans line = [m.captured]) ∧
    (∀ span ∈ Matcher.labelDefinition.spans line ++ Matcher.labelReference.spans line,
      span ∈ Word.pattern.find 0 [] line) ∧
    (isLabel name = true ↔ namePattern.MatchesWhole name) ∧
    (Matcher.labelDefinition.spans (name ++ ":") = [⟨0, name.length⟩] ↔ isLabel name = true) ∧
    (Matcher.labelReference.spans ("jump " ++ name) = [⟨5, 5 + name.length⟩] ↔ isLabel name = true) ∧
    ∀ sets table, RuleTable.build sets = .ok table →
      (∀ set ∈ sets, set.category ≠ Category.functionName.name) → ∀ offset,
        (Mark.annotate ⟨⟨0, name.length⟩, Category.functionName.name⟩ offset ∈
          table.classify (name ++ ":") offset ↔ isLabel name = true) ∧
        (Mark.annotate ⟨⟨5, 5 + name.length⟩, Category.functionName.name⟩ offset ∈
          table.classify ("jump " ++ name) offset ↔ isLabel name = true) := by
  have hcolon : (Passage.span ⟨0, name⟩).content (name ++ ":") = name := by
    simp [Span.content, Passage.span, Passage.stop]
  have hjump : (Passage.span ⟨5, name⟩).content ("jump " ++ name) = name :=
    Span.content_span (p := ⟨5, name⟩) (List.append_nil _).symm rfl
  have hcolonSpan : Passage.span ⟨0, name⟩ = ⟨0, name.length⟩ := by
    rw [Passage.span, Passage.stop, Nat.zero_add]
  have hjumpSpan : Passage.span ⟨5, name⟩ = ⟨5, 5 + name.length⟩ := rfl
  refine ⟨fun span => mem_spans_labelDefinition, fun span => mem_spans_labelReference,
    fun label label' => IsLabelOf.unique, ?_, ?_, ?_, ?_, isLabel_iff_matchesWhole, ?_, ?_, ?_⟩
  · rw [spans_rules]
    exact length_spans_le line
  · intro m hm
    rcases exists_mem_matchesAt_definitionPattern.mp ⟨m, hm, rfl⟩ with ⟨label, hlabel, hspan⟩
    rw [hlabel.spans, hspan]
  · intro m hm
    rcases exists_mem_matchesAt_referencePattern.mp ⟨m, hm, rfl⟩ with ⟨label, hlabel, hspan⟩
    rw [hlabel.spans, hspan]
  · intro span hspan
    rw [spans_rules] at hspan
    rw [Word.find_pattern, ← Word.spans_pattern]
    exact mem_wordSpans hspan
  · constructor
    · intro h
      have hmem : Passage.span ⟨0, name⟩ ∈ Matcher.labelDefinition.spans (name ++ ":") := by
        rw [h, hcolonSpan]
        exact List.mem_singleton_self _
      rcases mem_spans_labelDefinition.mp hmem with ⟨label, hlabel, hspan⟩
      exact isLabel_of_span (Or.inl hlabel) hcolon hspan
    · intro h
      rw [(isDefinition_colon h).spans, hcolonSpan]
  · constructor
    · intro h
      have hmem : Passage.span ⟨5, name⟩ ∈ Matcher.labelReference.spans ("jump " ++ name) := by
        rw [h, hjumpSpan]
        exact List.mem_singleton_self _
      rcases mem_spans_labelReference.mp hmem with ⟨label, hlabel, hspan⟩
      exact isLabel_of_span (Or.inr hlabel) hjump hspan
    · intro h
      rw [(isReference_jump h).spans, hjumpSpan]
  · intro sets table hbuild hwords offset
    rw [RuleTable.annotate_mem_classify, RuleTable.annotate_mem_classify, ← hcolonSpan, ← hjumpSpan]
    exact ⟨mem_marks_of_span hbuild hwords hcolon fun h => Or.inl (isDefinition_colon h),
      mem_marks_of_span hbuild hwords hjump fun h => Or.inr (isReference_jump h)⟩

/-- The packaged vocabulary has no function names, so a label is annotated where it is defined and
where it is referred to. -/
theorem Label.rules_agree_loop :
    RuleTable.build Vocabulary.packaged = .ok RuleTable.packaged ∧
    (∀ set ∈ Vocabulary.packaged, set.category ≠ Category.functionName.name) ∧
    isLabel "loop-2" = true ∧
    ⟨0, 6, "function-name"⟩ ∈ RuleTable.packaged.classify "loop-2:" 0 ∧
    ⟨5, 11, "function-name"⟩ ∈ RuleTable.packaged.classify "jump loop-2" 0 := by
  have hwords : ∀ set ∈ Vocabulary.packaged, set.category ≠ Category.functionName.name := by decide
  have hlabel : isLabel "loop-2" = true := by decide +kernel
  rcases (Label.rules_agree [] "loop-2").2.2.2.2.2.2.2.2.2.2 _ _ RuleTable.build_packaged hwords 0 with
    ⟨hdefinition, hreference⟩
  exact ⟨RuleTable.build_packaged, hwords, hlabel, hdefinition.mpr hlabel, hreference.mpr hlabel⟩

end MlogHighlight
