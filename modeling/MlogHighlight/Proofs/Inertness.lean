import MlogHighlight.Proofs.Indentation

/-!
# What a comment says

In a table that begins with the rule for comments, a comment is claimed before anything else. Of what
the other rules find, what lies in the comment is lost, and what lies in front of it is what they find
without the comment, except that a line with a comment defines no label. So it does not matter what
the comment says. Main facts:

* `Matcher.exists_spans_comment`: what a matcher finds in a line with a comment;
* `Mark.foldl_claim_concat`: claims beside a mark that is kept at the end of the line;
* `RuleTable.marks_comment`: what is kept of a line with a comment;
* `RuleTable.classify_comment`: the annotations of such a line.
-/

namespace MlogHighlight

open Text

variable {front text : Text}

/-! ## What is found in a line with a comment -/

/-- The comment of a line runs to the end of the line. -/
theorem Comment.spans_comment (hfront : start ∉ front) (htext : '\n' ∉ text) :
    spans (front ++ start :: text) = [⟨front.length, front.length + 1 + text.length⟩] := by
  have hcomment : '\n' ∉ start :: text := by
    rw [List.mem_cons, not_or]
    exact ⟨by decide, htext⟩
  have hcode : start ∉ ([] : Text) := List.not_mem_nil
  have hinline := inLine?_of_comment hcode List.not_mem_nil htext atLineEnd_nil 0
  rw [List.nil_append, List.take_nil, List.append_nil] at hinline
  rw [spans_append_left hfront, spans, lines, linesFrom_last (List.cons_ne_nil _ _) hcomment,
    List.filterMap_cons_some hinline]
  simp [Span.shift, Nat.add_comm, Nat.add_left_comm]

namespace Label

/-- A line with a comment defines no label. -/
theorem definition?_eq_none_of_comment {line : Text} (h : Comment.start ∈ line) :
    definition? line = none := by
  cases hlabel : definition? line with
  | none => rfl
  | some label =>
    rcases definition?_eq_some.mp hlabel with ⟨indent, rest, rfl, -, hindent, hname, hrest⟩
    have hcolon : Comment.start ≠ ':' := by decide
    simp [start_notMem_of_isWhiteSpace hindent, start_notMem_of_isLabel hname,
      start_notMem_of_isWhiteSpace hrest, hcolon] at h

/-- A label ends in front of a comment. -/
theorem reference?_comment (front text : Text) :
    reference? (front ++ Comment.start :: text) = reference? front := by
  have hstart : isBody Comment.start = false := by decide
  apply reference?_append rfl
  intro code c rest hcode hbody
  cases code with
  | nil =>
    rw [List.nil_append, List.cons.injEq] at hcode
    rw [← hcode.1, hstart] at hbody
    exact Bool.noConfusion hbody
  | cons d code =>
    rw [List.cons_append, List.cons.injEq] at hcode
    rw [hcode.1]
    exact List.mem_cons_self ..

end Label

/-- In a line with a comment a matcher finds what it finds in front of the comment, and spans inside
the comment. A line that defines a label is the only exception. -/
theorem Matcher.exists_spans_comment {matcher : Matcher} (hmatcher : matcher ≠ .labelDefinition)
    (hfront : Comment.start ∉ front) (htext : '\n' ∉ text) :
    ∃ inside, matcher.spans (front ++ Comment.start :: text) = matcher.spans front ++ inside ∧
      ∀ span ∈ inside, front.length ≤ span.start := by
  cases matcher with
  | comment =>
    refine ⟨[⟨front.length, front.length + 1 + text.length⟩], ?_, ?_⟩
    · rw [spans, spans, Comment.spans_comment hfront htext, Comment.spans_of_notMem hfront]
      rfl
    · simp
  | labelDefinition => exact absurd rfl hmatcher
  | labelReference =>
    refine ⟨[], ?_, by simp⟩
    rw [spans, spans, Label.reference?_comment, List.append_nil]
  | members words =>
    have hstops : Stops Word.isBody (Comment.start :: text) := stops_cons.mpr Word.isBody_comment
    refine ⟨(((Word.all (Comment.start :: text)).map (·.shift front.length)).filter
      (·.text ∈ words)).map (·.span), ?_, ?_⟩
    · rw [spans, spans, Word.all_append hstops, List.filter_append, List.map_append]
    · intro span hspan
      rcases List.mem_map.mp hspan with ⟨moved, hmoved, rfl⟩
      rcases List.mem_map.mp (List.mem_filter.mp hmoved).1 with ⟨word, -, rfl⟩
      exact Nat.le_add_left ..

/-! ## Claims beside the comment -/

namespace Mark

variable {kept marks inside : List Mark} {m last : Mark}

theorem insert_concat (h : m.span.start < last.span.start) :
    m.insert (kept ++ [last]) = m.insert kept ++ [last] := by
  induction kept with
  | nil => simp [insert, h]
  | cons k kept ih =>
    rw [List.cons_append, insert, insert, ih]
    split <;> rfl

/-- A mark in front of the last one is kept or not without regard to the last one. -/
theorem claim_concat_front (hm : m.span.start < m.span.stop) (h : m.span.stop ≤ last.span.start) :
    claim (kept ++ [last]) m = claim kept m ++ [last] := by
  have hlast : last.span.overlaps m.span = false := Span.overlaps_eq_false.mpr (Or.inr h)
  unfold claim
  rw [List.any_append, List.any_cons, hlast, List.any_nil, Bool.or_self, Bool.or_false]
  split
  · rfl
  · exact insert_concat (Nat.lt_of_lt_of_le hm h)

/-- A mark inside the last one is not kept. -/
theorem claim_concat_inside (hm : m.span.start < m.span.stop) (h : m.span.Inside last.span) :
    claim (kept ++ [last]) m = kept ++ [last] := by
  have hlast : last.span.overlaps m.span = true := by
    rw [← Bool.not_eq_false, Span.overlaps_eq_false]
    intro hapart
    exact Span.not_apart_of_inside hm h hapart.symm
  unfold claim
  rw [if_pos (by simp [hlast])]

theorem foldl_claim_inside
    (hinside : ∀ m ∈ inside, m.span.start < m.span.stop ∧ m.span.Inside last.span) :
    inside.foldl claim (kept ++ [last]) = kept ++ [last] := by
  induction inside with
  | nil => rfl
  | cons m inside ih =>
    rcases List.forall_mem_cons.mp hinside with ⟨hm, hinside⟩
    rw [List.foldl_cons, claim_concat_inside hm.1 hm.2, ih hinside]

/-- Marks in front of the last one are claimed without regard to it, and marks inside it are lost. -/
theorem foldl_claim_concat
    (hmarks : ∀ m ∈ marks, m.span.start < m.span.stop ∧ m.span.stop ≤ last.span.start)
    (hinside : ∀ m ∈ inside, m.span.start < m.span.stop ∧ m.span.Inside last.span) :
    (marks ++ inside).foldl claim (kept ++ [last]) = marks.foldl claim kept ++ [last] := by
  induction marks generalizing kept with
  | nil => exact foldl_claim_inside hinside
  | cons m marks ih =>
    rcases List.forall_mem_cons.mp hmarks with ⟨hm, hmarks⟩
    rw [List.cons_append, List.foldl_cons, claim_concat_front hm.1 hm.2, ih hmarks, List.foldl_cons]

end Mark

/-! ## Tables -/

/-- What a rule would mark in a line with a comment: what it would mark in front of the comment, and
marks inside the comment. -/
theorem Rule.exists_marks_comment {rule : Rule} (hrule : rule.matcher ≠ .labelDefinition)
    (hfront : Comment.start ∉ front) (htext : '\n' ∉ text) :
    ∃ inside, rule.marks (front ++ Comment.start :: text) = rule.marks front ++ inside ∧
      ∀ m ∈ inside, front.length ≤ m.span.start := by
  rcases Matcher.exists_spans_comment hrule hfront htext with ⟨inside, hspans, hinside⟩
  refine ⟨inside.map (⟨·, rule.category⟩), ?_, ?_⟩
  · rw [marks, marks, hspans, List.map_append]
  · intro m hm
    rcases List.mem_map.mp hm with ⟨span, hspan, rfl⟩
    exact hinside span hspan

/-- A rule for definitions marks nothing in a line that defines no label. -/
theorem Rule.marks_eq_nil {rule : Rule} (hrule : rule.matcher = .labelDefinition) {line : Text}
    (hline : Label.definition? line = none) : rule.marks line = [] := by
  rw [marks, hrule, Matcher.spans, hline]
  rfl

namespace RuleTable

variable {table : RuleTable}

/-- The rules of a table that look for something else than the label a line defines. -/
def withoutDefinitions (table : RuleTable) : RuleTable :=
  table.filter (·.matcher ≠ .labelDefinition)

/-- The mark of the comment behind `front`. -/
def commentMark (front text : Text) : Mark :=
  ⟨⟨front.length, front.length + 1 + text.length⟩, Category.comment.name⟩

theorem withoutDefinitions_cons_of_definition {rule : Rule} (hrule : rule.matcher = .labelDefinition)
    (table : RuleTable) : withoutDefinitions (rule :: table) = withoutDefinitions table :=
  List.filter_cons_of_neg (by simpa using hrule)

theorem withoutDefinitions_cons {rule : Rule} (hrule : rule.matcher ≠ .labelDefinition)
    (table : RuleTable) : withoutDefinitions (rule :: table) = rule :: withoutDefinitions table :=
  List.filter_cons_of_pos (by simpa using hrule)

/-- When the comment has been claimed, the rules claim what they do without it. -/
theorem foldl_candidates_comment (hfront : Comment.start ∉ front) (htext : '\n' ∉ text)
    (table : RuleTable) (kept : List Mark) :
    (table.candidates (front ++ Comment.start :: text)).foldl Mark.claim
        (kept ++ [commentMark front text]) =
      (table.withoutDefinitions.candidates front).foldl Mark.claim kept ++
        [commentMark front text] := by
  induction table generalizing kept with
  | nil => rfl
  | cons rule table ih =>
    rw [candidates_cons, List.foldl_append]
    by_cases hrule : rule.matcher = .labelDefinition
    · have hnone : Label.definition? (front ++ Comment.start :: text) = none :=
        Label.definition?_eq_none_of_comment (by simp)
      rw [Rule.marks_eq_nil hrule hnone, withoutDefinitions_cons_of_definition hrule,
        List.foldl_nil, ih]
    · rcases Rule.exists_marks_comment hrule hfront htext with ⟨inside, hmarks, hinside⟩
      have hcomment : ∀ m ∈ inside, m.span.start < m.span.stop ∧
          m.span.Inside (commentMark front text).span := by
        intro m hm
        have hbounds := Rule.bounds_of_mem_marks
          (show m ∈ rule.marks (front ++ Comment.start :: text) by simp [hmarks, hm])
        have hlength : (front ++ Comment.start :: text).length =
            front.length + 1 + text.length := by
          rw [List.length_append, List.length_cons]
          omega
        rw [hlength] at hbounds
        exact ⟨hbounds.1, hinside m hm, hbounds.2⟩
      rw [hmarks, withoutDefinitions_cons hrule,
        Mark.foldl_claim_concat (fun m hm => Rule.bounds_of_mem_marks hm) hcomment, ih,
        candidates_cons, List.foldl_append]

/-- If the first rule looks for comments, what is kept of a line with a comment is the comment and
what the rules keep of the line in front of it; no label is defined there. -/
theorem marks_comment {rules : RuleTable} {rule : Rule} (hmatcher : rule.matcher = .comment)
    (hcategory : rule.category = Category.comment.name) (hfront : Comment.start ∉ front)
    (htext : '\n' ∉ text) :
    marks (rule :: rules) (front ++ Comment.start :: text) =
      marks (withoutDefinitions (rule :: rules)) front ++ [commentMark front text] := by
  have hcomment : rule.marks (front ++ Comment.start :: text) = [commentMark front text] := by
    rw [Rule.marks, hmatcher, Matcher.spans, Comment.spans_comment hfront htext, hcategory]
    rfl
  have hnone : rule.marks front = [] := by
    rw [Rule.marks, hmatcher, Matcher.spans, Comment.spans_of_notMem hfront, List.map_nil]
  have hrule : rule.matcher ≠ .labelDefinition := by simp [hmatcher]
  have hclaims := foldl_candidates_comment hfront htext rules []
  rw [List.nil_append] at hclaims
  rw [marks, marks, withoutDefinitions_cons hrule, candidates_cons, candidates_cons, hcomment,
    hnone, List.foldl_append, List.nil_append, ← hclaims]
  rfl

/-- If the line defines no label, it does not matter whether the table looks for definitions. -/
theorem candidates_withoutDefinitions {line : Text} (hline : Label.definition? line = none)
    (table : RuleTable) : table.withoutDefinitions.candidates line = table.candidates line :=
  candidates_filter fun _ _ hrule => Rule.marks_eq_nil (by simpa using hrule) hline

theorem exists_rules_of_build {sets : Vocabulary} (h : build sets = .ok table) :
    ∃ rules, table = structural ++ rules := by
  unfold build at h
  cases hrules : sets.mapM VocabularySet.rule with
  | error e => simp [hrules, Except.map] at h
  | ok rules =>
    rw [hrules] at h
    exact ⟨rules, (Except.ok.inj h).symm⟩

/-- It does not matter what a comment says. Whatever stands behind the `#`, the line has the same
annotations in front of it, and one more, the comment, which runs to the end of the line. Those in
front are the ones that the line has without the comment, unless it defines a label then: with the
comment it does not. -/
theorem classify_comment {sets : Vocabulary} (hbuild : build sets = .ok table)
    (hfront : Comment.start ∉ front) :
    (∀ a ∈ table.withoutDefinitions.classify front 0,
        a.start < front.length ∧ a.stop ≤ front.length) ∧
      (∀ text : Text, '\n' ∉ text → table.classify (front ++ Comment.start :: text) 0 =
        table.withoutDefinitions.classify front 0 ++
          [⟨front.length, (front ++ Comment.start :: text).length, Category.comment.name⟩]) ∧
      (Label.definitionPattern.spans front = [] →
        table.withoutDefinitions.classify front 0 = table.classify front 0) := by
  rcases exists_rules_of_build hbuild with ⟨rules, rfl⟩
  refine ⟨?_, ?_, ?_⟩
  · intro a ha
    have hbounds := bounds_of_mem_classify _ front ha
    omega
  · intro text htext
    have hmarks : marks (structural ++ rules) (front ++ Comment.start :: text) = _ :=
      marks_comment rfl rfl hfront htext
    have hmark : (commentMark front text).annotate 0 =
        ⟨front.length, (front ++ Comment.start :: text).length, Category.comment.name⟩ := by
      simp [commentMark, Mark.annotate, Int.add_assoc, Int.add_comm 1]
    rw [classify, hmarks, List.map_append, List.map_singleton, hmark]
    rfl
  · intro hdefinition
    have hnone : Label.definition? front = none := by
      rw [Label.spans_definitionPattern] at hdefinition
      cases hlabel : Label.definition? front with
      | none => rfl
      | some label => simp [hlabel] at hdefinition
    rw [classify, classify, marks, marks, candidates_withoutDefinitions hnone]

/-- A jump right in front of two comments, and a label that is no definition in front of one. -/
theorem classify_comment_jump :
    ∃ table, build [⟨"words", "keyword", "none", ["jump", "end"]⟩] = .ok table ∧
      Comment.start ∉ ("jump end" : Text) ∧ Comment.start ∉ ("end:" : Text) ∧
      Label.definitionPattern.spans "jump end" = [] ∧
      table.classify "jump end# jump end" 0 = table.classify "jump end" 0 ++ [⟨8, 18, "comment"⟩] ∧
      table.classify "jump end#end:#" 0 =
        [⟨0, 4, "keyword"⟩, ⟨5, 8, "function-name"⟩, ⟨8, 14, "comment"⟩] ∧
      table.classify "end:#" 0 = [⟨0, 3, "keyword"⟩, ⟨4, 5, "comment"⟩] := by
  have hjump : Comment.start ∉ ("jump end" : Text) := by decide
  have hend : Comment.start ∉ ("end:" : Text) := by decide
  have hline : Label.definitionPattern.spans "jump end" = [] := by decide
  have hbuild : build [⟨"words", "keyword", "none", ["jump", "end"]⟩] = .ok _ := rfl
  refine ⟨_, hbuild, hjump, hend, hline, ?_, ?_, ?_⟩
  · rw [← (classify_comment hbuild hjump).2.2 hline]
    exact (classify_comment hbuild hjump).2.1 " jump end" (by decide)
  · refine ((classify_comment hbuild hjump).2.1 "end:#" (by decide)).trans ?_
    decide
  · refine ((classify_comment hbuild hend).2.1 "" (by decide)).trans ?_
    decide

end RuleTable

end MlogHighlight
