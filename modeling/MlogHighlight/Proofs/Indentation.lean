import MlogHighlight.Proofs.Claiming
import MlogHighlight.Proofs.Overlap

/-!
# Indentation and trailing blanks

White space in front of a line moves whatever is found in the line, and white space behind it is not
noticed. This holds of every matcher on its own, and what a table keeps depends only on how the spans
lie to each other, so it holds of every table. Main facts:

* `Matcher.spans_append_left`: what a matcher finds behind white space;
* `Matcher.spans_append_right`: what a matcher finds in front of white space;
* `RuleTable.marks_of_spans_shift`: if all that is found is moved, what is kept is moved;
* `RuleTable.classify_whiteSpace`: the annotations of a line with white space at its ends.
-/

namespace MlogHighlight

open Text Unicode

/-! ## Things that are moved -/

/-- The span at a place further on. -/
def Span.shift (a : Span) (distance : Nat) : Span := ⟨a.start + distance, a.stop + distance⟩

/-- The mark at a place further on. -/
def Mark.shift (m : Mark) (distance : Nat) : Mark := { m with span := m.span.shift distance }

theorem Passage.span_shift (p : Passage) (distance : Nat) :
    (p.shift distance).span = p.span.shift distance := by
  simp [shift, span, stop, Span.shift, Nat.add_right_comm]

theorem Span.overlaps_shift (a b : Span) (distance : Nat) :
    (a.shift distance).overlaps (b.shift distance) = a.overlaps b := by
  simp [overlaps, shift]

namespace Mark

variable (m : Mark) (kept marks : List Mark) (distance : Nat)

theorem insert_shift : (m.shift distance).insert (kept.map (·.shift distance)) =
    (m.insert kept).map (·.shift distance) := by
  induction kept with
  | nil => rfl
  | cons k kept ih =>
    have hstart : (m.shift distance).span.start < (k.shift distance).span.start ↔
        m.span.start < k.span.start := by
      simp [shift, Span.shift]
    simp only [List.map_cons, insert, hstart, ih]
    split <;> rfl

theorem claim_shift : claim (kept.map (·.shift distance)) (m.shift distance) =
    (claim kept m).map (·.shift distance) := by
  have hany : ((kept.map (·.shift distance)).any fun k => k.span.overlaps (m.shift distance).span) =
      kept.any fun k => k.span.overlaps m.span := by
    rw [List.any_map]
    congr 1
    funext k
    exact Span.overlaps_shift k.span m.span distance
  unfold claim
  rw [hany]
  split
  · rfl
  · exact insert_shift m kept distance

theorem foldl_claim_shift :
    (marks.map (·.shift distance)).foldl claim (kept.map (·.shift distance)) =
      (marks.foldl claim kept).map (·.shift distance) := by
  induction marks generalizing kept with
  | nil => rfl
  | cons m marks ih => rw [List.map_cons, List.foldl_cons, claim_shift, ih, List.foldl_cons]

theorem annotate_shift (offset : Int) :
    (m.shift distance).annotate offset = (m.annotate 0).shift (offset + distance) := by
  simp [annotate, shift, Span.shift, Annotation.shift, Int.add_assoc, Int.add_comm (distance : Int)]

end Mark

/-! ## Lines that are moved -/

theorem Text.runsFrom_add (p : Char → Bool) (pos distance : Nat) (s : Text) :
    runsFrom p (pos + distance) s = (runsFrom p pos s).map (·.shift distance) := by
  induction s generalizing pos with
  | nil => rfl
  | cons c s ih =>
    have hpos : pos + distance + 1 = pos + 1 + distance := Nat.add_right_comm ..
    simp only [runsFrom, hpos, ih]
    cases runsFrom p (pos + 1) s with
    | nil => split <;> rfl
    | cons run rest =>
      have hstart : run.start + distance = pos + 1 + distance ↔ run.start = pos + 1 := by omega
      simp only [List.map_cons, Passage.shift, hstart]
      split
      · split <;> rfl
      · rfl

/-- Behind characters that are in no word, the same words are found further on. -/
theorem Word.all_append_left {front : Text} (hfront : ∀ c ∈ front, Word.isBody c = false)
    (line : Text) : Word.all (front ++ line) = (Word.all line).map (·.shift front.length) := by
  unfold Word.all runs
  rw [runsFrom_append_of_none hfront, runsFrom_add, List.filter_map]
  rfl

/-- A word does not go on behind the place where word characters stop. -/
theorem Word.all_append {back : Text} (hback : Stops Word.isBody back) (line : Text) :
    Word.all (line ++ back) = Word.all line ++ (Word.all back).map (·.shift line.length) := by
  unfold Word.all runs
  rw [runsFrom_append hback, runsFrom_add, List.filter_append, List.filter_map]
  rfl

namespace Comment

theorem inLine?_shift (line : Passage) (distance : Nat) :
    inLine? (line.shift distance) = (inLine? line).map (·.shift distance) := by
  unfold inLine? Passage.shift
  dsimp only
  split
  · simp [Span.shift, Nat.add_right_comm]
  · rfl

/-- Behind code, the same comments are found further on. -/
theorem spans_append_left {code : Text} (hcode : start ∉ code) (line : Text) :
    spans (code ++ line) = (spans line).map (·.shift code.length) := by
  have hfind := find_code hcode [] line
  rw [find_eq, find_eq, List.append_nil, List.length_reverse] at hfind
  have hlines := linesFrom_add 0 code.length line
  rw [Nat.zero_add] at hlines
  unfold spans
  rw [show (code ++ line).lines.filterMap inLine? = _ from hfind, hlines, List.filterMap_map,
    List.map_filterMap]
  congr 1
  funext l
  exact inLine?_shift l code.length

theorem spans_of_notMem {code : Text} (hcode : start ∉ code) : spans code = [] := by
  have hspans := spans_append_left hcode []
  rwa [List.append_nil] at hspans

end Comment

/-! ## Labels between white space -/

namespace Label

variable {ws : Text}

theorem definition?_append_left (hws : ws.all isWhiteSpace = true) (line : Text) :
    definition? (ws ++ line) = (definition? line).map (·.shift ws.length) := by
  have hall := List.all_eq_true.mp hws
  unfold definition?
  rw [List.takeWhile_append_of_pos hall, List.dropWhile_append_of_pos hall]
  dsimp only
  split
  · split
    · simp [Passage.shift, Nat.add_comm]
    · rfl
  · rfl

theorem reference?_append_left (hws : ws.all isWhiteSpace = true) (line : Text) :
    reference? (ws ++ line) = (reference? line).map (·.shift ws.length) := by
  have hall := List.all_eq_true.mp hws
  unfold reference?
  rw [List.takeWhile_append_of_pos hall, List.dropWhile_append_of_pos hall]
  dsimp only
  split
  · split
    · simp only [Option.map_some, Passage.shift, List.length_append]
      congr 2
      omega
    · rfl
  · rfl

/-- White space at the end of a text that has something else in it is behind that. -/
theorem exists_append_of_append_whiteSpace {line front back : Text} {c : Char}
    (hws : ws.all isWhiteSpace = true) (hc : isWhiteSpace c = false)
    (h : line ++ ws = front ++ c :: back) :
    ∃ middle, line = front ++ c :: middle ∧ back = middle ++ ws := by
  rcases List.append_eq_append_iff.mp h with ⟨middle, hfront, hmiddle⟩ | ⟨middle, hline, hmiddle⟩
  · -- `c` would be white space
    have hmem : c ∈ ws := by
      rw [hmiddle]
      simp
    rw [List.all_eq_true.mp hws c hmem] at hc
    exact Bool.noConfusion hc
  · cases middle with
    | nil =>
      have hmem : c ∈ ws := by
        rw [← List.nil_append ws, ← hmiddle]
        exact List.mem_cons_self ..
      rw [List.all_eq_true.mp hws c hmem] at hc
      exact Bool.noConfusion hc
    | cons d middle =>
      rw [List.cons_append, List.cons.injEq] at hmiddle
      exact ⟨middle, by rw [hline, hmiddle.1], hmiddle.2⟩

theorem isDefinition_append_right (hws : ws.all isWhiteSpace = true) {line : Text} {label : Passage} :
    IsDefinition (line ++ ws) label ↔ IsDefinition line label := by
  constructor
  · intro h
    rcases h with ⟨indent, rest, hline, hstart, hindent, hlabel, hrest⟩
    rcases exists_append_of_append_whiteSpace hws (c := ':') (by decide) hline with
      ⟨middle, rfl, rfl⟩
    rw [List.all_append, Bool.and_eq_true] at hrest
    exact ⟨indent, middle, rfl, hstart, hindent, hlabel, hrest.1⟩
  · intro h
    rcases h with ⟨indent, rest, rfl, hstart, hindent, hlabel, hrest⟩
    refine ⟨indent, rest ++ ws, by simp, hstart, hindent, hlabel, ?_⟩
    rw [List.all_append, hrest, hws, Bool.and_self]

theorem endsReference_append {back : Text} (hback : endsReference back = true) (rest : Text) :
    endsReference (rest ++ back) = endsReference rest := by
  cases rest with
  | nil => exact hback
  | cons c rest => rfl

/-- A reference does not go on in a text behind the line if that text has label characters in its
comments only. -/
theorem isReference_append {line back : Text} {label : Passage} (hend : endsReference back = true)
    (hback : ∀ front c rest, back = front ++ c :: rest → isBody c = true → Comment.start ∈ front) :
    IsReference (line ++ back) label ↔ IsReference line label := by
  constructor
  · intro h
    rcases h with ⟨indent, gap, rest, hline, hstart, hindent, hne, hgap, hlabel, hrest⟩
    have hcode := start_notMem_of_reference hindent hgap hlabel
    rcases List.append_eq_append_iff.mp hline with ⟨middle, hreached, hmiddle⟩ | ⟨middle, hline, hmiddle⟩
    · -- the label ends behind the line, so its last character is in `back`
      rcases List.eq_nil_or_concat middle with rfl | ⟨front, c, rfl⟩
      · rw [List.append_nil] at hreached
        exact ⟨indent, gap, [], by rw [hreached, List.append_nil], hstart, hindent, hne, hgap, hlabel,
          rfl⟩
      · have hbody : isBody c = true := by
          have hlast := congrArg List.getLast? hreached
          rw [List.concat_eq_append, ← List.append_assoc, List.getLast?_concat,
            List.getLast?_append_of_ne_nil _ (ne_nil_of_isLabel hlabel)] at hlast
          exact List.all_eq_true.mp (all_isBody_of_isLabel hlabel) c (List.mem_of_getLast? hlast)
        have hcomment := hback front c rest (by simpa using hmiddle) hbody
        rw [hreached] at hcode
        exact absurd (by simp [hcomment]) hcode
    · rw [hmiddle, endsReference_append hend] at hrest
      exact ⟨indent, gap, middle, hline, hstart, hindent, hne, hgap, hlabel, hrest⟩
  · intro h
    rcases h with ⟨indent, gap, rest, rfl, hstart, hindent, hne, hgap, hlabel, hrest⟩
    refine ⟨indent, gap, rest ++ back, by simp, hstart, hindent, hne, hgap, hlabel, ?_⟩
    rw [endsReference_append hend, hrest]

theorem reference?_append {back : Text} (hend : endsReference back = true)
    (hback : ∀ front c rest, back = front ++ c :: rest → isBody c = true → Comment.start ∈ front)
    (line : Text) : reference? (line ++ back) = reference? line := by
  apply Option.ext
  intro label
  rw [reference?_eq_some, reference?_eq_some, isReference_append hend hback]

theorem definition?_append_right (hws : ws.all isWhiteSpace = true) (line : Text) :
    definition? (line ++ ws) = definition? line := by
  apply Option.ext
  intro label
  rw [definition?_eq_some, definition?_eq_some, isDefinition_append_right hws]

theorem endsReference_of_isWhiteSpace (hws : ws.all isWhiteSpace = true) :
    endsReference ws = true := by
  cases ws with
  | nil => rfl
  | cons c ws =>
    rw [List.all_cons, Bool.and_eq_true] at hws
    simp [endsReference, hws.1]

theorem reference?_append_right (hws : ws.all isWhiteSpace = true) (line : Text) :
    reference? (line ++ ws) = reference? line := by
  apply reference?_append (endsReference_of_isWhiteSpace hws)
  rintro front c rest rfl hbody
  -- white space has no label characters
  have hspace := List.all_eq_true.mp hws c (by simp)
  rw [isBody_of_isWhiteSpace hspace] at hbody
  exact Bool.noConfusion hbody

end Label

/-! ## Matchers -/

namespace Matcher

variable {ws : Text}

theorem wordBody_of_all_whiteSpace (hws : ws.all isWhiteSpace = true) :
    ∀ c ∈ ws, Word.isBody c = false := by
  intro c hc
  exact Word.isBody_of_isWhiteSpace (List.all_eq_true.mp hws c hc)

/-- Behind white space a matcher finds the same, further on. -/
theorem spans_append_left (hws : ws.all isWhiteSpace = true) (matcher : Matcher) (line : Text) :
    matcher.spans (ws ++ line) = (matcher.spans line).map (·.shift ws.length) := by
  cases matcher with
  | comment => exact Comment.spans_append_left (Label.start_notMem_of_isWhiteSpace hws) line
  | labelDefinition =>
    rw [spans, spans, Label.definition?_append_left hws]
    cases Label.definition? line <;> simp [Passage.span_shift]
  | labelReference =>
    rw [spans, spans, Label.reference?_append_left hws]
    cases Label.reference? line <;> simp [Passage.span_shift]
  | members words =>
    rw [spans, spans, Word.all_append_left (wordBody_of_all_whiteSpace hws), List.filter_map,
      List.map_map, List.map_map]
    apply List.map_congr_left
    intro word _
    exact Passage.span_shift word ws.length

/-- In front of white space a matcher finds the same, unless the white space belongs to a comment. -/
theorem spans_append_right (hws : ws.all isWhiteSpace = true) (matcher : Matcher) {line : Text}
    (hline : Comment.start ∉ line) : matcher.spans (line ++ ws) = matcher.spans line := by
  cases matcher with
  | comment =>
    have hnone : Comment.start ∉ line ++ ws := by
      rw [List.mem_append, not_or]
      exact ⟨hline, Label.start_notMem_of_isWhiteSpace hws⟩
    rw [spans, spans, Comment.spans_of_notMem hnone, Comment.spans_of_notMem hline]
  | labelDefinition => rw [spans, spans, Label.definition?_append_right hws]
  | labelReference => rw [spans, spans, Label.reference?_append_right hws]
  | members words =>
    have hnone : Word.all ws = [] := by
      rw [Word.all, runs, runsFrom_eq_nil (wordBody_of_all_whiteSpace hws), List.filter_nil]
    rw [spans, spans, Word.all_append (Label.stops_wordBody_of_isWhiteSpace hws), hnone,
      List.map_nil, List.append_nil]

end Matcher

/-! ## Tables -/

namespace RuleTable

variable (table : RuleTable)

/-- If all that the rules find is moved, what is kept is moved. -/
theorem marks_of_spans_shift {line line' : Text} {distance : Nat}
    (h : ∀ rule ∈ table,
      rule.matcher.spans line' = (rule.matcher.spans line).map (·.shift distance)) :
    table.marks line' = (table.marks line).map (·.shift distance) := by
  have hcandidates : table.candidates line' = (table.candidates line).map (·.shift distance) := by
    unfold candidates
    rw [List.map_flatMap]
    apply List.flatMap_congr
    intro rule hrule
    rw [Rule.marks, Rule.marks, h rule hrule, List.map_map, List.map_map]
    rfl
  unfold marks
  rw [hcandidates]
  exact Mark.foldl_claim_shift [] (table.candidates line) distance

/-- White space in front of a line, and an offset, only move the annotations of the line, and white
space behind a line without a comment does not change them. -/
theorem classify_whiteSpace {ws : Text} (hws : ws.all isWhiteSpace = true) (line : Text)
    (offset : Int) :
    table.classify (ws ++ line) offset =
        (table.classify line 0).map (·.shift (offset + ws.length)) ∧
      (Comment.start ∉ line → table.classify (line ++ ws) offset = table.classify line offset) := by
  constructor
  · have hmarks := table.marks_of_spans_shift fun rule _ => rule.matcher.spans_append_left hws line
    rw [classify, classify, hmarks, List.map_map, List.map_map]
    apply List.map_congr_left
    intro m _
    exact m.annotate_shift ws.length offset
  · intro hline
    have hcandidates : table.candidates (line ++ ws) = table.candidates line := by
      apply List.flatMap_congr
      intro rule _
      rw [Rule.marks, Rule.marks, rule.matcher.spans_append_right hws hline]
    rw [classify, classify, marks, marks, hcandidates]

/-- A jump between a line feed, an ideographic space and a tab, far in front of the text. -/
theorem classify_whiteSpace_jump :
    ("\n\u3000\t" : Text).all isWhiteSpace = true ∧ Comment.start ∉ ("jump end" : Text) ∧
      RuleTable.classify structural (("\n\u3000\t" : Text) ++ "jump end") (-1000) =
        [⟨-992, -989, "function-name"⟩] ∧
      RuleTable.classify structural (("jump end" : Text) ++ "\n\u3000\t") (-1000) =
        [⟨-995, -992, "function-name"⟩] := by
  have hws : ("\n\u3000\t" : Text).all isWhiteSpace = true := by decide
  have hline : Comment.start ∉ ("jump end" : Text) := by decide
  refine ⟨hws, hline, ?_, ?_⟩
  · rw [(classify_whiteSpace structural hws "jump end" (-1000)).1]
    decide
  · rw [(classify_whiteSpace structural hws "jump end" (-1000)).2 hline]
    decide

end RuleTable

end MlogHighlight
