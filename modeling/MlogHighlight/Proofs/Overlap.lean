import MlogHighlight.Proofs.Matcher

/-!
# How comments, labels and words overlap

A word has neither a `#` nor a line feed in it, so it cannot stick out of a comment. A label is a
whole word in front of all comments. Main facts:

* `Word.inside_or_apart`: a word lies inside a comment or is apart from it;
* `Label.mem_wordSpans`, `Label.apart_of_comment`: a label is a word and apart from all comments;
* `Label.length_spans_le`: a line has at most one label.
-/

namespace MlogHighlight

open Text Unicode

/-! ## Characters at positions -/

/-- The characters of a run are of the class of the run. -/
theorem Text.getElem?_of_isRun {p : Char → Bool} {s : Text} {run : Passage} (h : IsRun p s run)
    {i : Nat} (hi : run.span.Has i) : ∃ c, s[i]? = some c ∧ p c = true := by
  rcases h with ⟨before, after, hs, hstart, -, hall, -⟩
  rcases hi with ⟨hle, hlt⟩
  simp only [Passage.span, Passage.stop] at hle hlt
  have hindex : i - before.length < run.text.length := by omega
  refine ⟨run.text[i - before.length], ?_, ?_⟩
  · rw [hs, List.append_assoc, List.getElem?_append_right (by omega),
      List.getElem?_append_left hindex, List.getElem?_eq_getElem hindex]
  · exact List.all_eq_true.mp hall _ (List.getElem_mem hindex)

namespace Comment

variable {s : Text} {span : Span}

/-- A comment begins with a `#`. -/
theorem getElem?_start (h : IsComment s span) : s[span.start]? = some start := by
  rcases h with ⟨front, code, text, rest, rfl, -, -, -, -, -, hstart, -⟩
  rw [hstart, List.append_assoc, List.getElem?_append_right (Nat.le_refl _)]
  simp

/-- Only a line feed can follow a comment. -/
theorem getElem?_stop (h : IsComment s span) {c : Char} (hc : s[span.stop]? = some c) :
    c = '\n' := by
  rcases h with ⟨front, code, text, rest, rfl, -, -, -, -, hrest, -, hstop⟩
  have hlength : (front ++ code ++ start :: text).length = span.stop := by
    simp only [List.length_append, List.length_cons] at hstop ⊢
    omega
  rw [List.getElem?_append_right (by omega), hlength, Nat.sub_self] at hc
  rcases hrest.cases with rfl | ⟨t, rfl⟩
  · simp at hc
  · simpa using hc.symm

/-- No comment begins in front of the first `#`. -/
theorem length_le_start {code rest : Text} (hcode : start ∉ code)
    (h : IsComment (code ++ rest) span) : code.length ≤ span.start := by
  by_contra hlt
  have hstart := getElem?_start h
  rw [List.getElem?_append_left (by omega)] at hstart
  exact hcode (List.mem_of_getElem? hstart)

end Comment

/-! ## Words and comments -/

namespace Word

variable {line : Text} {word comment : Span}

theorem isBody_comment : isBody Comment.start = false := by decide

theorem isBody_lineFeed : isBody '\n' = false := by decide

/-- A word lies inside a comment or is apart from it. -/
theorem inside_or_apart (hword : word ∈ pattern.spans line)
    (hcomment : comment ∈ Comment.pattern.spans line) : word.Inside comment ∨ word.Apart comment := by
  have hbounds := Pattern.bounds_of_mem_spans _ hword
  have hbounds' := Pattern.bounds_of_mem_spans _ hcomment
  rw [Comment.spans_pattern, Comment.mem_spans] at hcomment
  rw [spans_pattern] at hword
  rcases List.mem_map.mp hword with ⟨run, hrun, rfl⟩
  have hrun := (mem_all.mp hrun).1
  -- neither end of the comment is in the word, so the word does not stick out
  have hstart : ¬ run.span.Has comment.start := by
    intro hi
    rcases getElem?_of_isRun hrun hi with ⟨c, hc, hbody⟩
    rw [Comment.getElem?_start hcomment, Option.some.injEq] at hc
    rw [← hc, isBody_comment] at hbody
    exact Bool.noConfusion hbody
  have hstop : ¬ run.span.Has comment.stop := by
    intro hi
    rcases getElem?_of_isRun hrun hi with ⟨c, hc, hbody⟩
    rw [Comment.getElem?_stop hcomment hc, isBody_lineFeed] at hbody
    exact Bool.noConfusion hbody
  unfold Span.Has at hstart hstop
  unfold Span.Inside Span.Apart
  omega

end Word

/-! ## Labels -/

namespace Label

variable {line : Text} {label comment : Span}

/-- The label of a line, if it has one: the line defines it or refers to it. -/
def spans (line : Text) : List Span := definitionPattern.spans line ++ referencePattern.spans line

/-- A line has at most one label. -/
theorem length_spans_le (line : Text) : (spans line).length ≤ 1 := by
  rw [spans, spans_definitionPattern, spans_referencePattern]
  cases hreference : reference? line with
  | none => cases definition? line <;> simp
  | some label => simp [definition?_eq_none_of_reference? hreference]

theorem mem_spans : label ∈ spans line ↔
    ∃ name, (definition? line = some name ∨ reference? line = some name) ∧ name.span = label := by
  rw [spans, spans_definitionPattern, spans_referencePattern, List.mem_append]
  simp only [List.mem_map, Option.mem_toList]
  constructor
  · intro h
    rcases h with ⟨name, hname, rfl⟩ | ⟨name, hname, rfl⟩
    · exact ⟨name, Or.inl hname, rfl⟩
    · exact ⟨name, Or.inr hname, rfl⟩
  · intro h
    rcases h with ⟨name, hname | hname, rfl⟩
    · exact Or.inl ⟨name, hname, rfl⟩
    · exact Or.inr ⟨name, hname, rfl⟩

/-- A label is one of the words of the line. -/
theorem mem_wordSpans (h : label ∈ spans line) : label ∈ Word.pattern.spans line := by
  rcases mem_spans.mp h with ⟨name, hname, rfl⟩
  rw [Word.spans_pattern]
  apply List.mem_map_of_mem
  rw [Word.mem_all]
  rcases hname with hname | hname
  · rcases definition?_eq_some.mp hname with ⟨_, _, _, _, _, hlabel, _⟩
    exact ⟨isRun_of_definition? hname, beginsWord_of_isLabel hlabel⟩
  · rcases reference?_eq_some.mp hname with ⟨_, _, _, _, _, _, _, _, hlabel, _⟩
    exact ⟨isRun_of_reference? hname, beginsWord_of_isLabel hlabel⟩

theorem start_notMem_of_isWhiteSpace {s : Text} (h : s.all isWhiteSpace = true) :
    Comment.start ∉ s := by
  intro hmem
  have hstart := List.all_eq_true.mp h _ hmem
  exact absurd hstart (by decide)

theorem start_notMem_of_isLabel {name : Text} (h : isLabel name = true) : Comment.start ∉ name := by
  intro hmem
  have hstart := List.all_eq_true.mp (all_isBody_of_isLabel h) _ hmem
  exact absurd hstart (by decide)

/-- A line has no comment in front of the end of the label it refers to. -/
theorem start_notMem_of_reference {indent gap name : Text} (hindent : indent.all isWhiteSpace = true)
    (hgap : gap.all isWhiteSpace = true) (hname : isLabel name = true) :
    Comment.start ∉ indent ++ "jump" ++ gap ++ name := by
  have hjump : Comment.start ∉ "jump".toList := by decide
  simp only [List.mem_append, not_or]
  exact ⟨⟨⟨start_notMem_of_isWhiteSpace hindent, hjump⟩, start_notMem_of_isWhiteSpace hgap⟩,
    start_notMem_of_isLabel hname⟩

/-- A label is apart from all comments: it is in front of them. -/
theorem apart_of_comment (h : label ∈ spans line) (hcomment : comment ∈ Comment.pattern.spans line) :
    label.Apart comment := by
  rw [Comment.spans_pattern, Comment.mem_spans] at hcomment
  rcases mem_spans.mp h with ⟨name, hname, rfl⟩
  left
  simp only [Passage.span, Passage.stop]
  rcases hname with hname | hname
  · rcases definition?_eq_some.mp hname with ⟨indent, rest, rfl, hstart, hindent, hlabel, -⟩
    have hcode : Comment.start ∉ indent ++ name.text := by
      rw [List.mem_append, not_or]
      exact ⟨start_notMem_of_isWhiteSpace hindent, start_notMem_of_isLabel hlabel⟩
    have hle := Comment.length_le_start hcode hcomment
    rw [List.length_append] at hle
    omega
  · obtain ⟨indent, gap, rest, rfl, hstart, hindent, -, hgap, hlabel, -⟩ :=
      reference?_eq_some.mp hname
    have hle := Comment.length_le_start (start_notMem_of_reference hindent hgap hlabel) hcomment
    rw [List.length_append] at hle
    omega

end Label

end MlogHighlight
