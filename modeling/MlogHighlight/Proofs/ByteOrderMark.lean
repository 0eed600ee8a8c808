import MlogHighlight.Output
import MlogHighlight.Proofs.Agreement
import MlogHighlight.Proofs.Description
import MlogHighlight.Proofs.Indentation

/-!
# Byte order marks

A byte order mark is no white space, no part of a word and no comment. In front of a text it is the
first character of the first line. Words and comments are found behind it as before, one position
further on, but the label of a line may have nothing but white space in front of it, so the first
line has no label any more. Only listings show that: the other formats drop the mark first. Main
facts:

* `Matcher.spans_byteOrderMark`: what a matcher finds behind the mark;
* `Listing.records_eq_append`: the records of the first line, and those of the lines behind it;
* `RuleTable.marks_withoutLabels`: when labels make no difference;
* `Listing.records_byteOrderMark`: the listing of a text with a mark, and when it says the same.
-/

namespace MlogHighlight

open Text Unicode

/-- The byte order mark. -/
def Text.byteOrderMark : Char := '\ufeff'

theorem Unicode.isWhiteSpace_byteOrderMark : isWhiteSpace byteOrderMark = false := by decide

theorem Unicode.wordClass?_byteOrderMark : wordClass? byteOrderMark = none := by decide +kernel

theorem Word.isBody_byteOrderMark : isBody byteOrderMark = false :=
  isBody_of_wordClass? wordClass?_byteOrderMark (by decide) (by decide) (by decide)

/-! ## What is found behind the mark -/

namespace Label

/-- A line with a byte order mark in front defines no label. -/
theorem definition?_byteOrderMark (line : Text) : definition? (byteOrderMark :: line) = none := by
  have hcolon : byteOrderMark ≠ ':' := by decide
  have hbody := isBody_of_wordBody Word.isBody_byteOrderMark
  simp [definition?, isWhiteSpace_byteOrderMark, hbody, hcolon]

/-- Such a line refers to no label either. -/
theorem reference?_byteOrderMark (line : Text) : reference? (byteOrderMark :: line) = none := by
  have hjump : byteOrderMark ≠ 'j' := by decide
  simp [reference?, isWhiteSpace_byteOrderMark, hjump]

theorem spans_byteOrderMark (line : Text) : spans (byteOrderMark :: line) = [] := by
  rw [spans, spans_definitionPattern, spans_referencePattern, definition?_byteOrderMark,
    reference?_byteOrderMark]
  rfl

end Label

namespace Comment

theorem spans_byteOrderMark (line : Text) :
    spans (byteOrderMark :: line) = (spans line).map (·.shift 1) := by
  have hmark : start ∉ [byteOrderMark] := by decide
  exact spans_append_left hmark line

theorem pattern_spans_byteOrderMark (line : Text) :
    pattern.spans (byteOrderMark :: line) = (pattern.spans line).map (·.shift 1) := by
  rw [spans_pattern, spans_pattern, spans_byteOrderMark]

end Comment

namespace Word

theorem all_byteOrderMark (line : Text) :
    all (byteOrderMark :: line) = (all line).map (·.shift 1) := by
  have hmark : ∀ c ∈ [byteOrderMark], isBody c = false :=
    List.forall_mem_singleton.mpr isBody_byteOrderMark
  exact all_append_left hmark line

theorem pattern_spans_byteOrderMark (line : Text) :
    pattern.spans (byteOrderMark :: line) = (pattern.spans line).map (·.shift 1) := by
  rw [spans_pattern, spans_pattern, all_byteOrderMark, List.map_map, List.map_map]
  exact List.map_congr_left fun word _ => Passage.span_shift word 1

end Word

namespace Matcher

/-- Does the matcher look for labels? -/
def isForLabels : Matcher → Bool
  | .labelDefinition | .labelReference => true
  | .comment | .members _ => false

/-- A matcher for labels finds labels. -/
theorem spans_subset_of_isForLabels {matcher : Matcher} (h : matcher.isForLabels = true)
    (line : Text) : matcher.spans line ⊆ Label.spans line := by
  cases matcher with
  | labelDefinition =>
    rw [spans, Label.spans, Label.spans_definitionPattern]
    exact List.subset_append_left ..
  | labelReference =>
    rw [spans, Label.spans, Label.spans_referencePattern]
    exact List.subset_append_right ..
  | comment => exact Bool.noConfusion h
  | members words => exact Bool.noConfusion h

/-- Behind a byte order mark a matcher for comments or words finds the same, one position further
on. -/
theorem spans_byteOrderMark {matcher : Matcher} (h : matcher.isForLabels = false) (line : Text) :
    matcher.spans (byteOrderMark :: line) = (matcher.spans line).map (·.shift 1) := by
  cases matcher with
  | comment => exact Comment.spans_byteOrderMark line
  | members words =>
    rw [spans, spans, Word.all_byteOrderMark, List.filter_map, List.map_map, List.map_map]
    apply List.map_congr_left
    intro word _
    exact Passage.span_shift word 1
  | labelDefinition => exact Bool.noConfusion h
  | labelReference => exact Bool.noConfusion h

end Matcher

namespace RuleTable

variable {table : RuleTable} {line : Text}

/-- The rules of a table that do not look for labels. -/
def withoutLabels (table : RuleTable) : RuleTable := table.filter (!·.matcher.isForLabels)

/-- In a line without a label it makes no difference whether the table looks for labels. -/
theorem marks_withoutLabels_of_spans (hline : Label.spans line = []) :
    table.withoutLabels.marks line = table.marks line := by
  have hcandidates : table.withoutLabels.candidates line = table.candidates line := by
    apply candidates_filter
    intro rule _ hrule
    rw [Bool.not_eq_false'] at hrule
    have hspans := Matcher.spans_subset_of_isForLabels hrule line
    rw [hline] at hspans
    rw [Rule.marks, List.eq_nil_of_subset_nil hspans]
    rfl
  rw [marks, marks, hcandidates]

/-- What is marked behind a byte order mark is what is marked when nothing looks for labels. -/
theorem marks_byteOrderMark (table : RuleTable) (line : Text) :
    table.marks (byteOrderMark :: line) = (table.withoutLabels.marks line).map (·.shift 1) := by
  -- the line with the mark has no label, so the rules for labels can be left out first
  rw [← marks_withoutLabels_of_spans (Label.spans_byteOrderMark line)]
  apply marks_of_spans_shift
  intro rule hrule
  have hmatcher := (List.mem_filter.mp hrule).2
  rw [Bool.not_eq_true'] at hmatcher
  exact Matcher.spans_byteOrderMark hmatcher line

end RuleTable

/-! ## The first line of a text -/

/-- The first line of a text, without its line end. -/
def Text.firstLine (s : Text) : Text := trimEnd isLineEnd (s.takeWhile (· ≠ '\n'))

/-- What stands behind the first line of a text and its line end. -/
def Text.afterFirstLine (s : Text) : Text := (s.dropWhile (· ≠ '\n')).drop 1

theorem Text.firstLine_byteOrderMark (s : Text) :
    firstLine (byteOrderMark :: s) = byteOrderMark :: s.firstLine := by
  have hstops : Stops isLineEnd [byteOrderMark].reverse := stops_cons.mpr (by decide)
  exact trimEnd_append_of_stops hstops (s.takeWhile (· ≠ '\n'))

theorem Text.afterFirstLine_byteOrderMark (s : Text) :
    afterFirstLine (byteOrderMark :: s) = s.afterFirstLine := rfl

namespace Listing

variable (table : RuleTable)

/-- The records of a text without their positions: the number of the line, the category and the
annotated characters. -/
def entries (text : Text) : List (Nat × Text × Text) :=
  (records table text).map fun r => (r.line, r.category, r.text)

/-- The record, one position further on. -/
def Record.shift (r : Record) : Record := { r with start := r.start + 1, stop := r.stop + 1 }

theorem line_le_of_mem_recordsFrom {number : Nat} {lines : List MarkedLine} {r : Record}
    (h : r ∈ recordsFrom number lines) : number ≤ r.line := by
  induction lines generalizing number with
  | nil => exact absurd h List.not_mem_nil
  | cons l lines ih =>
    rcases List.mem_append.mp h with h | h
    · rcases List.mem_map.mp h with ⟨m, -, rfl⟩
      exact Nat.le_refl _
    · exact Nat.le_of_succ_le (ih h)

/-- It does not matter for the records where the lines stand in the text. -/
theorem recordsFrom_linesFrom (number pos : Nat) (text : Text) :
    recordsFrom number ((linesFrom pos text).map fun line =>
        ⟨line, table.marks (line.text.trimEnd isLineEnd)⟩) =
      recordsFrom number (table.markLines text) := by
  have hlines := linesFrom_add 0 pos text
  rw [Nat.zero_add] at hlines
  rw [hlines, RuleTable.markLines, lines]
  induction linesFrom 0 text generalizing number with
  | nil => rfl
  | cons line lines ih =>
    simp only [List.map_cons, recordsFrom]
    rw [ih]
    rfl

/-- The records of the first line of a text, in front of those of the lines behind it. -/
theorem records_eq_append (text : Text) : records table text =
    (table.marks text.firstLine).map (record 1 ⟨0, text.firstLine⟩) ++
      recordsFrom 2 (table.markLines text.afterFirstLine) := by
  have hbody := lineFeed_notMem_takeWhile text
  have hrest := atLineEnd_dropWhile text
  have htext : text.takeWhile (· ≠ '\n') ++ text.dropWhile (· ≠ '\n') = text :=
    List.takeWhile_append_dropWhile
  by_cases hempty : text = []
  · rw [hempty]
    simp [records, RuleTable.markLines, lines, linesFrom, recordsFrom, firstLine, afterFirstLine,
      trimEnd, table.marks_nil]
  · have hlines := linesFrom_eq_cons hbody hrest (by rwa [htext]) 0
    have hend : ((text.dropWhile (· ≠ '\n')).take 1).all isLineEnd = true := by
      rcases hrest.cases with h | ⟨t, h⟩
      · rw [h]
        rfl
      · rw [h]
        rfl
    rcases eq_trimEnd isLineEnd (text.takeWhile (· ≠ '\n')) with ⟨back, hback, -⟩
    rw [htext] at hlines
    rw [records, RuleTable.markLines, lines, hlines, List.map_cons, recordsFrom,
      recordsFrom_linesFrom, trimEnd_append_of_all hend]
    congr 1
    apply List.map_congr_left
    intro m hm
    have hline := record_append 1 0 (back ++ (text.dropWhile (· ≠ '\n')).take 1) hm
    rw [← List.append_assoc, ← hback] at hline
    exact hline.trans (record_eq_content 1 0 hm).symm

/-! ## Listings of texts with a mark -/

theorem record_shift (number : Nat) (line : Text) (m : Mark) :
    record number ⟨0, byteOrderMark :: line⟩ (m.shift 1) = (record number ⟨0, line⟩ m).shift := by
  simp [record, Record.shift, Mark.shift, Span.shift, Span.length]

/-- With a byte order mark in front, the records of the first line are those of the table without
labels. -/
theorem records_mark_eq_append (text : Text) : records table (byteOrderMark :: text) =
    ((table.withoutLabels.marks text.firstLine).map (record 1 ⟨0, text.firstLine⟩)).map
        (·.shift) ++
      recordsFrom 2 (table.markLines text.afterFirstLine) := by
  rw [records_eq_append, firstLine_byteOrderMark, afterFirstLine_byteOrderMark,
    RuleTable.marks_byteOrderMark, List.map_map, List.map_map]
  congr 1
  apply List.map_congr_left
  intro m _
  exact record_shift 1 text.firstLine m

theorem filter_records_first (text : Text) : (records table text).filter (·.line = 1) =
    (table.marks text.firstLine).map (record 1 ⟨0, text.firstLine⟩) := by
  rw [records_eq_append, List.filter_append, List.filter_eq_self.mpr, List.filter_eq_nil_iff.mpr,
    List.append_nil]
  · intro r hr
    have hline := line_le_of_mem_recordsFrom hr
    simp only [decide_eq_true_eq]
    omega
  · intro r hr
    rcases List.mem_map.mp hr with ⟨m, -, rfl⟩
    rfl

theorem filter_records_later (text : Text) : (records table text).filter (·.line ≠ 1) =
    recordsFrom 2 (table.markLines text.afterFirstLine) := by
  rw [records_eq_append, List.filter_append, List.filter_eq_nil_iff.mpr, List.filter_eq_self.mpr,
    List.nil_append]
  · intro r hr
    have hline := line_le_of_mem_recordsFrom hr
    simp only [decide_eq_true_eq]
    omega
  · intro r hr
    rcases List.mem_map.mp hr with ⟨m, -, rfl⟩
    simp [record]

/-- What the entry of a mark says apart from the number of the line. -/
def summary (line : Text) (m : Mark) : Text × Text := (m.category, m.span.content line)

/-- The entries are the same with a byte order mark if those of the first line are. -/
theorem entries_byteOrderMark_iff (text : Text) :
    entries table (byteOrderMark :: text) = entries table text ↔
      (table.withoutLabels.marks text.firstLine).map (summary text.firstLine) =
        (table.marks text.firstLine).map (summary text.firstLine) := by
  have hsummary : ∀ rules : RuleTable, (rules.marks text.firstLine).map
      (fun m => ((record 1 ⟨0, text.firstLine⟩ m).line, (record 1 ⟨0, text.firstLine⟩ m).category,
        (record 1 ⟨0, text.firstLine⟩ m).text)) =
      ((rules.marks text.firstLine).map (summary text.firstLine)).map (Prod.mk 1) := by
    intro rules
    rw [List.map_map]
    apply List.map_congr_left
    intro m hm
    rw [Function.comp_apply, record_eq_content 1 0 hm]
    rfl
  have hinjective : Function.Injective (Prod.mk 1 : Text × Text → Nat × Text × Text) :=
    Prod.mk_right_injective 1
  rw [entries, entries, records_mark_eq_append, records_eq_append, List.map_append, List.map_append,
    List.append_left_inj, List.map_map, List.map_map, List.map_map,
    ← (List.map_injective_iff.mpr hinjective).eq_iff, ← hsummary, ← hsummary]
  rfl

end Listing

/-! ## Vocabularies that know the label -/

theorem Span.shift_injective (distance : Nat) : Function.Injective (Span.shift · distance) := by
  rintro ⟨start, stop⟩ ⟨start', stop'⟩ h
  simpa [Span.shift] using h

theorem Span.inside_shift {a b : Span} (distance : Nat) :
    (a.shift distance).Inside (b.shift distance) ↔ a.Inside b := by
  simp [Inside, shift]

theorem Mark.shift_injective (distance : Nat) : Function.Injective (Mark.shift · distance) := by
  rintro ⟨span, category⟩ ⟨span', category'⟩ h
  simp only [Mark.shift, Mark.mk.injEq] at h
  rw [Span.shift_injective distance h.1, h.2]

/-- Behind a byte order mark a vocabulary asks for the comments, and for its words that are in no
comment. -/
theorem Vocabulary.marked_byteOrderMark {sets : Vocabulary} {line : Text} {m : Mark} :
    sets.Marked (byteOrderMark :: line) (m.shift 1) ↔
      (m.span ∈ Comment.pattern.spans line ∧ m.category = Category.comment.name) ∨
        (m.span ∈ Word.pattern.spans line ∧
          (∀ comment ∈ Comment.pattern.spans line, ¬ m.span.Inside comment) ∧
          sets.category? (m.span.content line) = some m.category) := by
  have hcomments := Comment.pattern_spans_byteOrderMark line
  have hwords := Word.pattern_spans_byteOrderMark line
  have hmem : ∀ spans : List Span, (m.shift 1).span ∈ spans.map (·.shift 1) ↔ m.span ∈ spans :=
    fun spans => List.mem_map_of_injective (Span.shift_injective 1)
  have hinside : (∀ comment ∈ (Comment.pattern.spans line).map (·.shift 1),
        ¬ (m.shift 1).span.Inside comment) ↔
      ∀ comment ∈ Comment.pattern.spans line, ¬ m.span.Inside comment := by
    rw [List.forall_mem_map]
    exact forall₂_congr fun comment _ => not_congr (Span.inside_shift 1)
  have hcontent : (m.shift 1).span.content (byteOrderMark :: line) = m.span.content line := rfl
  have hcategory : (m.shift 1).category = m.category := rfl
  constructor
  · intro h
    generalize hshift : m.shift 1 = k at h hmem hinside hcontent hcategory
    cases h with
    | comment span hspan =>
      rw [hcomments] at hspan
      exact Or.inl ⟨(hmem _).mp hspan, hcategory.symm⟩
    | label span hspan =>
      rw [Label.spans_byteOrderMark] at hspan
      exact absurd hspan List.not_mem_nil
    | word span category hspan hcomment hlabel hword =>
      rw [hwords] at hspan
      rw [hcomments] at hcomment
      refine Or.inr ⟨(hmem _).mp hspan, hinside.mp hcomment, ?_⟩
      rw [← hcontent, hword]
      exact congrArg some hcategory
  · rintro (⟨hspan, hcomment⟩ | ⟨hspan, hcomment, hword⟩)
    · have hmarked : sets.Marked (byteOrderMark :: line)
          ⟨(m.shift 1).span, Category.comment.name⟩ := by
        apply Marked.comment
        rw [hcomments]
        exact (hmem _).mpr hspan
      rw [← hcomment] at hmarked
      exact hmarked
    · refine Marked.word (m.shift 1).span m.category ?_ ?_ ?_ ?_
      · rw [hwords]
        exact (hmem _).mpr hspan
      · rw [hcomments]
        exact hinside.mpr hcomment
      · rw [Label.spans_byteOrderMark]
        exact List.not_mem_nil
      · rw [hcontent, hword]

namespace RuleTable

variable {table : RuleTable} {sets : Vocabulary} {line : Text} {m : Mark}

/-- A table for a vocabulary that does not look for labels marks comments, and the words of the
vocabulary that are in no comment. -/
theorem mem_marks_withoutLabels (h : build sets = .ok table) :
    m ∈ table.withoutLabels.marks line ↔
      (m.span ∈ Comment.pattern.spans line ∧ m.category = Category.comment.name) ∨
        (m.span ∈ Word.pattern.spans line ∧
          (∀ comment ∈ Comment.pattern.spans line, ¬ m.span.Inside comment) ∧
          sets.category? (m.span.content line) = some m.category) := by
  rw [← List.mem_map_of_injective (Mark.shift_injective 1), ← marks_byteOrderMark,
    describes_of_build h, Vocabulary.marked_byteOrderMark]

/-- Labels make no difference if the vocabulary has them, in the category of labels. -/
theorem marks_withoutLabels_of_category (h : build sets = .ok table)
    (hlabels : ∀ label ∈ Label.spans line,
      sets.category? (label.content line) = some Category.functionName.name) :
    table.withoutLabels.marks line = table.marks line := by
  apply (marks_separate _ line).eq_of_mem_iff (marks_separate _ line)
  intro m
  rw [mem_marks_withoutLabels h, describes_of_build h]
  constructor
  · rcases m with ⟨span, category⟩
    rintro (⟨hspan, rfl⟩ | ⟨hspan, hcomment, hword⟩)
    · exact Vocabulary.Marked.comment span hspan
    · -- a word that is the label is marked as the label, which is the same
      by_cases hlabel : span ∈ Label.spans line
      · obtain rfl := Option.some.inj ((hlabels span hlabel).symm.trans hword)
        exact Vocabulary.Marked.label span hlabel
      · exact Vocabulary.Marked.word span category hspan hcomment hlabel hword
  · intro hm
    cases hm with
    | comment span hspan => exact Or.inl ⟨hspan, rfl⟩
    | label span hspan =>
      have hword := Label.mem_wordSpans hspan
      refine Or.inr ⟨hword, fun comment hcomment hinside => ?_, hlabels span hspan⟩
      exact Span.not_apart_of_inside (Pattern.bounds_of_mem_spans _ hword).1 hinside
        (Label.apart_of_comment hspan hcomment)
    | word span category hspan hcomment _ hword => exact Or.inr ⟨hspan, hcomment, hword⟩

/-- If the same is said about a line whether or not labels are looked for, the vocabulary has the
label of the line. -/
theorem category?_of_map_summary (h : build sets = .ok table)
    (heq : (table.withoutLabels.marks line).map (Listing.summary line) =
      (table.marks line).map (Listing.summary line)) {label : Span}
    (hlabel : label ∈ Label.spans line) :
    sets.category? (label.content line) = some Category.functionName.name := by
  have hmarked := (describes_of_build h line _).mpr (Vocabulary.Marked.label label hlabel)
  have hsaid := List.mem_map_of_mem (f := Listing.summary line) hmarked
  rw [← heq] at hsaid
  rcases List.mem_map.mp hsaid with ⟨m, hm, hsummary⟩
  rw [Listing.summary, Listing.summary, Prod.mk.injEq] at hsummary
  -- what else says what the label says is no comment, so it is a word, and the same word
  rcases (mem_marks_withoutLabels h).mp hm with ⟨-, hcomment⟩ | ⟨-, -, hword⟩
  · have hne : Category.functionName.name ≠ Category.comment.name := by decide
    exact absurd (hsummary.1.symm.trans hcomment) hne
  · rwa [hsummary.1, hsummary.2] at hword

end RuleTable

/-! ## The formats -/

theorem Format.render_byteOrderMark {format : Format} (hformat : format ≠ .annotations)
    {text : Text} (htext : text.head? ≠ some byteOrderMark) (table : RuleTable) (name : Text) :
    format.render table name (byteOrderMark :: text) = format.render table name text := by
  have happly : Preparation.apply {} (byteOrderMark :: text) = Preparation.apply {} text := by
    rw [Preparation.apply, Preparation.apply, Preparation.dropMark_of_head? htext]
    rfl
  have htokens : table.highlight {} (byteOrderMark :: text) = table.highlight {} text := by
    rw [RuleTable.highlight, RuleTable.highlight, happly]
  cases format with
  | annotations => exact absurd rfl hformat
  | terminal => rw [render, render, htokens]
  | html => rw [render, render, htokens]

namespace Listing

/-- A byte order mark in front of a text. The lines behind the first one have the same records. The
records of the first line are those of the table without its rules for labels, one position further
on. If that line has no label, the listing says the same as without the mark; if it has one, this is
so just if the vocabulary has the label as well, in the category of labels. The other formats do not
show whether there is a mark. -/
theorem records_byteOrderMark (table : RuleTable) (text : Text) :
    records table (byteOrderMark :: text) =
        ((records table.withoutLabels text).filter (·.line = 1)).map (·.shift) ++
          (records table text).filter (·.line ≠ 1) ∧
      (Label.spans text.firstLine = [] →
        entries table (byteOrderMark :: text) = entries table text) ∧
      (∀ sets, RuleTable.build sets = .ok table →
        (entries table (byteOrderMark :: text) = entries table text ↔
          ∀ label ∈ Label.spans text.firstLine,
            sets.category? (label.content text.firstLine) = some Category.functionName.name)) ∧
      (text.head? ≠ some byteOrderMark → ∀ format ≠ Format.annotations, ∀ name,
        format.render table name (byteOrderMark :: text) = format.render table name text) := by
  refine ⟨?_, ?_, ?_, ?_⟩
  · rw [records_mark_eq_append, filter_records_first, filter_records_later]
  · intro hlabels
    rw [entries_byteOrderMark_iff, RuleTable.marks_withoutLabels_of_spans hlabels]
  · intro sets hbuild
    rw [entries_byteOrderMark_iff]
    constructor
    · intro heq label hlabel
      exact RuleTable.category?_of_map_summary hbuild heq hlabel
    · intro hlabels
      rw [RuleTable.marks_withoutLabels_of_category hbuild hlabels]
  · intro htext format hformat name
    exact Format.render_byteOrderMark hformat htext table name

/-- A label that the vocabulary has as a keyword, and one that it has as a label. -/
theorem records_byteOrderMark_jump :
    RuleTable.build Vocabulary.packaged = .ok RuleTable.packaged ∧
      entries RuleTable.packaged (byteOrderMark :: "jump end") ≠
        entries RuleTable.packaged "jump end" ∧
      ∃ table, RuleTable.build [⟨"labels", "function-name", "none", ["loop"]⟩] = .ok table ∧
        entries table (byteOrderMark :: "loop:") = entries table "loop:" := by
  have hbuild : RuleTable.build [⟨"labels", "function-name", "none", ["loop"]⟩] = .ok _ := rfl
  refine ⟨RuleTable.build_packaged, ?_, _, hbuild, ?_⟩
  · have hlabel : (⟨5, 8⟩ : Span) ∈ Label.spans (firstLine "jump end") := by decide
    have hkeyword : Vocabulary.packaged.category? "end" = some Category.keyword.name := by decide
    intro heq
    have hknown := ((records_byteOrderMark RuleTable.packaged "jump end").2.2.1 _
      RuleTable.build_packaged).mp heq _ hlabel
    exact absurd (hkeyword.symm.trans hknown) (by decide)
  · exact ((records_byteOrderMark _ "loop:").2.2.1 _ hbuild).mpr (by decide)

/-- A label at the beginning of a text is not listed when a byte order mark stands in front of it,
but it is highlighted. -/
theorem entries_byteOrderMark_label :
    entries RuleTable.structural (byteOrderMark :: "loop:") = [] ∧
      entries RuleTable.structural "loop:" = [(1, Category.functionName.name, ("loop" : Text))] ∧
      RuleTable.structural.highlight {} (byteOrderMark :: "loop:") =
        RuleTable.structural.highlight {} "loop:" := by
  refine ⟨?_, ?_, rfl⟩
  · decide +kernel
  · decide

end Listing

end MlogHighlight
