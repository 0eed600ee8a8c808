import Mathlib.Tactic.NormNum
import MlogHighlight.Proofs.Locality
import MlogHighlight.Proofs.Member
import MlogHighlight.Recognition

/-!
# Recognition goes line by line

Blanks and empty lines may lead from the beginning of a line to a typical instruction further down.
But then the line of the instruction begins with blanks and the instruction as well, so it is enough
to look at the lines one by one. In such a line nothing but blanks stands in front of the
instruction, which is why no comment, label or longer word can take it away from the keywords. Main
facts:

* `Recognition.beginsTypically_iff`: the texts that begin with blanks and a typical instruction;
* `Recognition.isTypical_iff`: a text is typical if one of its lines begins so;
* `RuleTable.marks_instruction`: what is marked in such a line;
* `Recognition.score_lines`: the score of a text, and the first annotation of each such line.
-/

namespace MlogHighlight

open Text Unicode

namespace Recognition

/-- The text is made up of blanks, a typical instruction, and more that begins with a blank. -/
def Begins (blanks word s : Text) : Prop :=
  ∃ c rest, s = blanks ++ (word ++ c :: rest) ∧ blanks.all isBlank = true ∧
    word ∈ (["printflush", "drawflush", "ucontrol", "sensor"] : List Text) ∧ isBlank c = true

/-! ## Typical instructions -/

theorem isToken_of_mem_typical : ∀ word ∈ typical, Word.isToken word = true := by decide

theorem isBlank_of_mem_typical {word : Text} (hword : word ∈ typical) {c : Char} (hc : c ∈ word) :
    isBlank c = false := by
  have hall : (typical.all fun word => word.all fun c => !isBlank c) = true := by decide
  have hchar := List.all_eq_true.mp (List.all_eq_true.mp hall word hword) c hc
  simpa using hchar

theorem category?_of_mem_typical :
    ∀ word ∈ typical, Vocabulary.packaged.category? word = some Category.keyword.name := by
  decide +kernel

variable {s blanks word : Text}

theorem ne_nil_of_mem_typical (hword : word ∈ typical) : word ≠ [] := by
  rintro rfl
  exact absurd hword (by decide)

/-- An instruction is neither empty nor begins with a blank. -/
theorem stops_isBlank (hword : word ∈ typical) (rest : Text) : Stops isBlank (word ++ rest) := by
  cases word with
  | nil => exact absurd rfl (ne_nil_of_mem_typical hword)
  | cons c word =>
    rw [List.cons_append, stops_cons]
    exact isBlank_of_mem_typical hword (List.mem_cons_self ..)

/-- An instruction does not end in a line end. -/
theorem stops_isLineEnd (front : Text) (hword : word ∈ typical) :
    Stops isLineEnd (front ++ word).reverse := by
  have hend : ∀ word ∈ typical, word.reverse.head?.any isLineEnd = false := by decide
  have hne : word.reverse ≠ [] := List.reverse_ne_nil_iff.mpr (ne_nil_of_mem_typical hword)
  rw [List.reverse_append, stops_append_of_ne_nil hne]
  exact hend word hword

theorem notMem_of_isBlank {c : Char} (hc : isBlank c = true) (hword : word ∈ typical) : c ∉ word := by
  intro hmem
  rw [isBlank_of_mem_typical hword hmem] at hc
  exact Bool.noConfusion hc

/-! ## The beginnings of lines -/

theorem beginsWith_iff : beginsWith word s = true ↔ ∃ c rest, s = word ++ c :: rest ∧
    isBlank c = true := by
  rw [beginsWith, Bool.and_eq_true, List.isPrefixOf_iff_prefix]
  constructor
  · rintro ⟨⟨behind, rfl⟩, hblank⟩
    rw [List.drop_left] at hblank
    cases behind with
    | nil => simp at hblank
    | cons c rest => exact ⟨c, rest, rfl, hblank⟩
  · rintro ⟨c, rest, rfl, hc⟩
    refine ⟨List.prefix_append _ _, ?_⟩
    rw [List.drop_left]
    exact hc

theorem beginsTypically_iff : beginsTypically s = true ↔ ∃ blanks word, Begins blanks word s := by
  rw [beginsTypically, List.any_eq_true]
  constructor
  · rintro ⟨word, hword, hbegins⟩
    rcases beginsWith_iff.mp hbegins with ⟨c, rest, hdrop, hc⟩
    refine ⟨s.takeWhile isBlank, word, c, rest, ?_, all_takeWhile isBlank s, hword, hc⟩
    rw [← hdrop, List.takeWhile_append_dropWhile]
  · rintro ⟨blanks, word, c, rest, rfl, hblanks, hword, hc⟩
    refine ⟨word, hword, ?_⟩
    rw [dropWhile_append_of_run hblanks (stops_isBlank hword _)]
    exact beginsWith_iff.mpr ⟨c, rest, rfl, hc⟩

theorem laterLineIsTypical_iff : laterLineIsTypical s = true ↔
    ∃ front back, s = front ++ '\n' :: back ∧ beginsTypically back = true := by
  induction s with
  | nil => simp [laterLineIsTypical]
  | cons c s ih =>
    rw [laterLineIsTypical, Bool.or_eq_true, Bool.and_eq_true, beq_iff_eq, ih]
    constructor
    · rintro (⟨rfl, hs⟩ | ⟨front, back, rfl, hback⟩)
      · exact ⟨[], s, rfl, hs⟩
      · exact ⟨c :: front, back, rfl, hback⟩
    · rintro ⟨front, back, hs, hback⟩
      cases front with
      | nil =>
        rw [List.nil_append, List.cons.injEq] at hs
        exact Or.inl ⟨hs.1, hs.2 ▸ hback⟩
      | cons d front =>
        rw [List.cons_append, List.cons.injEq] at hs
        exact Or.inr ⟨front, back, hs.2, hback⟩

/-- A text is typical if it is so behind the end of some line. -/
theorem isTypical_iff_append : isTypical s = true ↔
    ∃ front back, s = front ++ back ∧ EndsLine front ∧ beginsTypically back = true := by
  rw [isTypical, Bool.or_eq_true, laterLineIsTypical_iff]
  constructor
  · rintro (hs | ⟨front, back, rfl, hback⟩)
    · exact ⟨[], s, rfl, endsLine_nil, hs⟩
    · exact ⟨front ++ ['\n'], back, by simp, endsLine_concat front, hback⟩
  · rintro ⟨front, back, rfl, hfront, hback⟩
    rcases hfront with rfl | hlast
    · exact Or.inl hback
    · rcases List.getLast?_eq_some_iff.mp hlast with ⟨front, rfl⟩
      exact Or.inr ⟨front, back, by simp, hback⟩

/-- A text is typical if one of its lines begins with blanks and a typical instruction. -/
theorem isTypical_iff : isTypical s = true ↔
    ∃ line ∈ s.lines, ∃ blanks word, Begins blanks word line.text := by
  rw [isTypical_iff_append]
  constructor
  · rintro ⟨front, back, rfl, hfront, hback⟩
    rcases beginsTypically_iff.mp hback with ⟨blanks, word, c, rest, rfl, hblanks, hword, hc⟩
    -- the line of the instruction begins behind the last line feed among the blanks
    rcases exists_endsLine_append blanks with ⟨skipped, indent, rfl, hskipped, hindent⟩
    rw [List.all_append, Bool.and_eq_true] at hblanks
    have hbody : '\n' ∉ indent ++ word := by
      rw [List.mem_append, not_or]
      exact ⟨hindent, notMem_of_isBlank (by decide) hword⟩
    rcases exists_mem_lines (hfront.append hskipped) hbody c rest with ⟨tail, hline⟩
    have htext : front ++ (skipped ++ indent ++ (word ++ c :: rest)) =
        front ++ skipped ++ (indent ++ word ++ c :: rest) := by
      simp only [List.append_assoc]
    rw [htext]
    exact ⟨_, hline, indent, word, c, tail, List.append_assoc .., hblanks.2, hword, hc⟩
  · rintro ⟨line, hline, blanks, word, c, rest, htext, hblanks, hword, hc⟩
    rcases mem_linesFrom hline with ⟨front, body, behind, hs, hfront, -, -, rfl⟩
    refine ⟨front, body ++ behind, by rw [hs, List.append_assoc], hfront, ?_⟩
    refine beginsTypically_iff.mpr ⟨blanks, word, c, rest ++ behind.drop 1, ?_, hblanks, hword, hc⟩
    have hbehind : body ++ behind = (body ++ behind.take 1) ++ behind.drop 1 := by
      rw [List.append_assoc, List.take_append_drop]
    rw [hbehind, show body ++ behind.take 1 = _ from htext]
    simp only [List.append_assoc, List.cons_append]

/-- The first instruction has an empty line and blanks in front of it, the second one other code. -/
example : isTypical "\n \x1csensor\n" = true ∧ isTypical "set x sensor y" = false := by
  decide +kernel

end Recognition

/-! ## The line of an instruction -/

/-- Blanks are no comment. -/
theorem Comment.start_notMem_of_all_isBlank {s : Text} (h : s.all isBlank = true) :
    Comment.start ∉ s :=
  fun hmem => absurd (List.all_eq_true.mp h _ hmem) (by decide)

/-- The first of several marks, and those behind it. -/
theorem Mark.Separate.exists_eq_cons {m : Mark} {marks : List Mark} (h : Mark.Separate marks)
    (hm : m ∈ marks) (hfirst : ∀ k ∈ marks, m.span.start ≤ k.span.start) :
    ∃ later, marks = m :: later ∧ ∀ k ∈ later, m.span.stop ≤ k.span.start := by
  cases marks with
  | nil => exact absurd hm List.not_mem_nil
  | cons k later =>
    have hle := hfirst k (List.mem_cons_self ..)
    rcases Mark.separate_cons.mp h with ⟨hk, hlater, -⟩
    rcases List.mem_cons.mp hm with rfl | hm
    · exact ⟨later, rfl, hlater⟩
    · have hbehind := hlater m hm
      omega

section

variable {blanks word back : Text}

/-- The first word behind blanks. -/
theorem Word.spans_blanks (hblanks : blanks.all isBlank = true) (hword : isToken word = true)
    (hback : Stops isBody back) :
    ∃ later, pattern.spans (blanks ++ (word ++ back)) =
        ⟨blanks.length, blanks.length + word.length⟩ :: later ∧
      ∀ span ∈ later, blanks.length ≤ span.start := by
  have hfront : ∀ c ∈ blanks, isBody c = false :=
    fun c hc => isBody_of_isBlank (List.all_eq_true.mp hblanks c hc)
  refine ⟨(((all back).map (·.shift word.length)).map (·.shift blanks.length)).map (·.span), ?_, ?_⟩
  · rw [spans_pattern, all_append_left hfront, all_append hback, all_of_isToken hword]
    simp [Passage.shift, Passage.span, Passage.stop]
  · intro span hspan
    rcases List.mem_map.mp hspan with ⟨moved, hmoved, rfl⟩
    rcases List.mem_map.mp hmoved with ⟨found, -, rfl⟩
    exact Nat.le_add_left ..

/-- An instruction that a blank or the end of the line follows is no label. -/
theorem Label.notMem_spans (hblanks : blanks.all isBlank = true) (hback : Stops (!isBlank ·) back) :
    (⟨blanks.length, blanks.length + word.length⟩ : Span) ∉ Label.spans (blanks ++ (word ++ back)) := by
  intro hmem
  rcases mem_spans.mp hmem with ⟨name, hname, hspan⟩
  rw [Passage.span, Passage.stop, Span.mk.injEq] at hspan
  rcases hname with hname | hname
  · -- a label that is defined ends in front of a colon
    rcases definition?_eq_some.mp hname with ⟨indent, rest, hline, hstart, -, -, -⟩
    have hindent : indent.length = blanks.length := by omega
    have hlength : name.text.length = word.length := by omega
    rw [List.append_assoc] at hline
    rcases List.append_inj hline hindent.symm with ⟨-, hline⟩
    rcases List.append_inj hline hlength.symm with ⟨-, rfl⟩
    exact absurd (stops_cons.mp hback) (by decide)
  · -- a label that is referred to has the jump in front of it
    rcases reference?_eq_some.mp hname with ⟨indent, gap, rest, hline, hstart, -, -, -, -, -⟩
    rw [List.append_assoc] at hline
    rcases List.append_inj hline (by omega) with ⟨rfl, -⟩
    have hjump : 'j' ∈ indent ++ "jump" ++ gap := by simp
    exact absurd (List.all_eq_true.mp hblanks 'j' hjump) (by decide)

end

namespace RuleTable

/-- In a line that begins with blanks and a typical instruction, the instruction is the first thing
that is marked. -/
theorem marks_instruction {blanks word back : Text} (hblanks : blanks.all isBlank = true)
    (hword : word ∈ Recognition.typical) (hback : Stops (!isBlank ·) back) :
    ∃ later, packaged.marks (blanks ++ (word ++ back)) =
        ⟨⟨blanks.length, blanks.length + word.length⟩, Category.keyword.name⟩ :: later ∧
      ∀ k ∈ later, blanks.length + word.length ≤ k.span.start := by
  have htoken := Recognition.isToken_of_mem_typical word hword
  have hpos := List.length_pos_iff.mpr (Recognition.ne_nil_of_mem_typical hword)
  have hend : Stops Word.isBody back := by
    cases back with
    | nil => exact stops_nil
    | cons c back =>
      rw [stops_cons, Bool.not_eq_false'] at hback
      exact stops_cons.mpr (Word.isBody_of_isBlank hback)
  have hcode : Comment.start ∉ blanks ++ word := by
    have hnone : ∀ word ∈ Recognition.typical, Comment.start ∉ word := by decide
    rw [List.mem_append, not_or]
    exact ⟨Comment.start_notMem_of_all_isBlank hblanks, hnone word hword⟩
  -- comments begin behind the instruction, and no word begins in front of it
  have hcomments : ∀ comment ∈ Comment.pattern.spans (blanks ++ (word ++ back)),
      blanks.length + word.length ≤ comment.start := by
    intro comment hcomment
    rw [Comment.spans_pattern, Comment.mem_spans, ← List.append_assoc] at hcomment
    rw [← List.length_append]
    exact Comment.length_le_start hcode hcomment
  rcases Word.spans_blanks hblanks htoken hend with ⟨words, hwords, hbehind⟩
  have hinstruction : (⟨blanks.length, blanks.length + word.length⟩ : Span) ∈
      Word.pattern.spans (blanks ++ (word ++ back)) := by
    rw [hwords]
    exact List.mem_cons_self ..
  have hcontent : (⟨blanks.length, blanks.length + word.length⟩ : Span).content
      (blanks ++ (word ++ back)) = word :=
    Span.content_span (p := ⟨blanks.length, word⟩) (List.append_assoc ..).symm rfl
  have hmarked : Vocabulary.packaged.Marked (blanks ++ (word ++ back))
      ⟨⟨blanks.length, blanks.length + word.length⟩, Category.keyword.name⟩ := by
    refine Vocabulary.Marked.word _ _ hinstruction ?_ (Label.notMem_spans hblanks hback) ?_
    · intro comment hcomment hinside
      have hstart := hcomments comment hcomment
      have hle : comment.start ≤ blanks.length := hinside.1
      omega
    · rw [hcontent]
      exact Recognition.category?_of_mem_typical word hword
  have hfirst : ∀ span ∈ Word.pattern.spans (blanks ++ (word ++ back)),
      blanks.length ≤ span.start := by
    rw [hwords]
    exact List.forall_mem_cons.mpr ⟨Nat.le_refl _, hbehind⟩
  have hdescribes := describes_of_build build_packaged (blanks ++ (word ++ back))
  refine (packaged.marks_separate _).exists_eq_cons ((hdescribes _).mpr hmarked) ?_
  intro k hk
  cases (hdescribes k).mp hk with
  | comment comment hcomment => exact Nat.le_of_add_right_le (hcomments comment hcomment)
  | label label hlabel => exact hfirst label (Label.mem_wordSpans hlabel)
  | word span category hspan => exact hfirst span hspan

/-- An instruction at the beginning of a line is the first thing that is annotated there. -/
theorem annotate_instruction {text blanks word : Text} {line : Passage} (hline : line ∈ text.lines)
    (hbegins : Recognition.Begins blanks word line.text) :
    ∃ later, (packaged.annotateLine line).annotations = ⟨line.start + blanks.length,
        line.start + blanks.length + word.length, Category.keyword.name⟩ :: later ∧
      text.slice (line.start + blanks.length) (line.start + blanks.length + word.length) = word ∧
      ∀ a ∈ later, line.start + blanks.length + word.length ≤ a.start := by
  rcases hbegins with ⟨c, rest, htext, hblanks, hword, hc⟩
  have hstops : Stops (!isBlank ·) (c :: rest) := by
    rw [stops_cons, hc]
    rfl
  have hback : Stops (!isBlank ·) (trimEnd isLineEnd (c :: rest)) :=
    hstops.of_prefix (List.rdropWhile_prefix ..)
  have htrim : line.text.trimEnd isLineEnd =
      blanks ++ (word ++ trimEnd isLineEnd (c :: rest)) := by
    rw [htext, ← List.append_assoc, trimEnd_append_of_stops
      (Recognition.stops_isLineEnd blanks hword), List.append_assoc]
  rcases marks_instruction hblanks hword hback with ⟨later, hmarks, hlater⟩
  have hmem : (⟨⟨blanks.length, blanks.length + word.length⟩, Category.keyword.name⟩ : Mark) ∈
      packaged.marks (line.text.trimEnd isLineEnd) := by
    rw [htrim, hmarks]
    exact List.mem_cons_self ..
  refine ⟨later.map (·.annotate line.start), ?_, ?_, ?_⟩
  · rw [annotateLine, classify, htrim, hmarks, List.map_cons]
    simp only [Mark.annotate]
    congr 2 <;> omega
  · have hslice := packaged.slice_of_mem_marks hline hmem
    have hcontent : (line.text.drop blanks.length).take word.length = word := by
      rw [htext, List.drop_left, List.take_left]
    simp only [Mark.annotate, Span.length, Nat.add_sub_cancel_left, Nat.cast_add] at hslice
    rw [hcontent] at hslice
    refine Eq.trans ?_ hslice
    congr 1 <;> omega
  · intro a ha
    rcases List.mem_map.mp ha with ⟨k, hk, rfl⟩
    have hbehind := hlater k hk
    simp only [Mark.annotate]
    omega

end RuleTable

namespace Recognition

/-- A text scores just if one of its lines, its line end included, is made up of blanks, a typical
instruction, a blank and anything else. The packaged vocabulary then annotates that instruction as a
keyword, and nothing in front of it. -/
theorem score_lines (s : Text) :
    (score s = 0.3 ↔ ∃ line ∈ s.lines, ∃ blanks word, Begins blanks word line.text) ∧
      (score s = 0 ↔ ¬ ∃ line ∈ s.lines, ∃ blanks word, Begins blanks word line.text) ∧
      ∀ l ∈ RuleTable.packaged.annotateLines s, ∀ blanks word, Begins blanks word l.line.text →
        ∃ later, l.annotations = ⟨l.line.start + blanks.length,
            l.line.start + blanks.length + word.length, Category.keyword.name⟩ :: later ∧
          s.slice (l.line.start + blanks.length) (l.line.start + blanks.length + word.length) = word ∧
          ∀ a ∈ later, l.line.start + blanks.length + word.length ≤ a.start := by
  have hpositive : (0.3 : Rat) ≠ 0 := by norm_num
  refine ⟨?_, ?_, ?_⟩
  · rw [← isTypical_iff, score]
    split
    · simp [*]
    · simp [*, hpositive.symm]
  · rw [← isTypical_iff, score]
    split
    · simp [*]
    · simp [*]
  · intro l hl blanks word hbegins
    rcases RuleTable.packaged.mem_annotateLines hl with ⟨hline, heq⟩
    rw [heq]
    exact RuleTable.annotate_instruction hline hbegins

/-- The instruction of the third line, which blanks lead to from the second one. -/
theorem score_lines_sensor :
    score "set x 1\n\n\x0c sensor x y @copper\n" = 0.3 ∧
      ∃ l ∈ RuleTable.packaged.annotateLines "set x 1\n\n\x0c sensor x y @copper\n",
        ∃ later, l.annotations = ⟨11, 17, "keyword"⟩ :: later ∧
          Text.slice "set x 1\n\n\x0c sensor x y @copper\n" 11 17 = "sensor" ∧
          ∀ a ∈ later, 17 ≤ a.start := by
  have hline : (⟨9, "\x0c sensor x y @copper\n"⟩ : Passage) ∈
      Text.lines "set x 1\n\n\x0c sensor x y @copper\n" := by
    decide
  have hbegins : Begins "\x0c " "sensor" "\x0c sensor x y @copper\n" :=
    ⟨' ', "x y @copper\n", rfl, by decide, by decide, by decide⟩
  rcases score_lines "set x 1\n\n\x0c sensor x y @copper\n" with ⟨hscore, -, hannotate⟩
  have hl := List.mem_map_of_mem (f := RuleTable.packaged.annotateLine) hline
  rw [← RuleTable.annotateLines_eq] at hl
  have hstart : ((9 : Nat) : Int) + ("\x0c " : Text).length = 11 := rfl
  have hstop : (11 : Int) + ("sensor" : Text).length = 17 := rfl
  rcases hannotate _ hl _ _ hbegins with ⟨later, hlater⟩
  rw [RuleTable.annotateLine_line, hstart, hstop] at hlater
  exact ⟨hscore.mpr ⟨_, hline, _, _, hbegins⟩, _, hl, later, hlater⟩

end Recognition

end MlogHighlight
