import MlogHighlight.Label
import MlogHighlight.Proofs.Pattern
import MlogHighlight.Proofs.Run
import MlogHighlight.Proofs.WhiteSpace

/-!
# Labels and their patterns

The patterns of labels are anchored at the start of the line, and every part of them can give
characters back. There is only one way to divide a line that matches, so the label does not depend
on how the matcher goes about it. Main facts:

* `Label.definition?_eq_some`, `Label.reference?_eq_some`: the lines that define and refer to labels;
* `Label.spans_definitionPattern`, `Label.spans_referencePattern`: the patterns find those labels;
* `Label.definition?_eq_none_of_reference?`: no line defines a label and refers to one;
* `Label.isRun_of_definition?`, `Label.isRun_of_reference?`: a label is a whole word.
-/

namespace MlogHighlight.Label

open Pattern Text Unicode

/-- The characters that a label that is referred to may not be followed by: all but white space and
the start of a comment. -/
def isBarrier (c : Char) : Bool := !(isWhiteSpace c || c == '#')

/-- The pattern of definitions, `\A\s*([\p{L}_][\p{L}\p{N}_-]*):\s*\Z`. -/
def definitionPattern : Pattern where
  lead := [.atStart, .many isWhiteSpace]
  captured := [.one isHead, .many isBody]
  trail := [.one (· == ':'), .many isWhiteSpace, .atEnd]

/-- The pattern of references, `\A\s*jump\s+([\p{L}_][\p{L}\p{N}_-]*)(?![^\s#])`. -/
def referencePattern : Pattern where
  lead := .atStart :: .many isWhiteSpace ::
    (literal "jump" ++ [.one isWhiteSpace, .many isWhiteSpace])
  captured := [.one isHead, .many isBody]
  trail := [.notAhead isBarrier]

/-- The line is the label and a colon, apart from white space at both ends. -/
def IsDefinition (line : Text) (label : Passage) : Prop :=
  ∃ indent rest, line = indent ++ label.text ++ ':' :: rest ∧ label.start = indent.length ∧
    indent.all isWhiteSpace = true ∧ isLabel label.text = true ∧ rest.all isWhiteSpace = true

/-- The line begins with `jump`, white space and the label, which white space, a comment or the end
of the line follows. -/
def IsReference (line : Text) (label : Passage) : Prop :=
  ∃ indent gap rest, line = indent ++ "jump" ++ gap ++ label.text ++ rest ∧
    label.start = (indent ++ "jump" ++ gap).length ∧ indent.all isWhiteSpace = true ∧ gap ≠ [] ∧
    gap.all isWhiteSpace = true ∧ isLabel label.text = true ∧ endsReference rest = true

/-! ## Labels -/

theorem ne_nil_of_isLabel {name : Text} (h : isLabel name = true) : name ≠ [] := by
  rintro rfl
  simp [isLabel] at h

theorem all_isBody_of_isLabel {name : Text} (h : isLabel name = true) : name.all isBody = true := by
  cases name with
  | nil => rfl
  | cons c s =>
    simp only [isLabel, Bool.and_eq_true] at h
    simp only [List.all_cons, isBody_of_isHead h.1, h.2, Bool.and_self]

theorem stops_isBody_of_isWhiteSpace {s : Text} (hne : s ≠ []) (hs : s.all isWhiteSpace = true)
    (rest : Text) : Stops isBody (s ++ rest) := by
  cases s with
  | nil => exact absurd rfl hne
  | cons c s =>
    simp only [List.all_cons, Bool.and_eq_true] at hs
    simpa using isBody_of_isWhiteSpace hs.1

/-- A label is no white space. -/
theorem stops_isWhiteSpace_of_all_isBody {name : Text} (hne : name ≠ [])
    (hname : name.all isBody = true) (rest : Text) : Stops isWhiteSpace (name ++ rest) := by
  cases name with
  | nil => exact absurd rfl hne
  | cons c s =>
    simp only [List.all_cons, Bool.and_eq_true] at hname
    rw [List.cons_append, stops_cons]
    by_contra hc
    have hbody := isBody_of_isWhiteSpace (by simpa using hc)
    rw [hname.1] at hbody
    exact Bool.noConfusion hbody

theorem endsReference_iff {rest : Text} :
    endsReference rest = true ↔ rest.head?.any isBarrier = false := by
  cases rest with
  | nil => simp [endsReference]
  | cons c rest => cases hc : isWhiteSpace c <;> simp [endsReference, isBarrier, hc]

theorem stops_isBody_of_endsReference {rest : Text} (h : endsReference rest = true) :
    Stops isBody rest := by
  cases rest with
  | nil => rfl
  | cons c rest =>
    simp only [endsReference, Bool.or_eq_true, beq_iff_eq] at h
    rcases h with h | rfl
    · simpa using isBody_of_isWhiteSpace h
    · exact stops_cons.mpr (by decide)

/-! ## The lines with labels -/

/-- A line defines a label in one way only. -/
theorem definition?_of_isDefinition {line : Text} {label : Passage} (h : IsDefinition line label) :
    definition? line = some label := by
  rcases h with ⟨indent, rest, rfl, hstart, hindent, hlabel, hrest⟩
  have hall := all_isBody_of_isLabel hlabel
  have hname := stops_isWhiteSpace_of_all_isBody (ne_nil_of_isLabel hlabel) hall (':' :: rest)
  have hcolon : Stops isBody (':' :: rest) := stops_cons.mpr (by decide)
  rw [definition?, List.append_assoc, takeWhile_append_of_run hindent hname,
    dropWhile_append_of_run hindent hname, takeWhile_append_of_run hall hcolon,
    dropWhile_append_of_run hall hcolon]
  simp [hlabel, hrest, ← hstart]

theorem isDefinition_of_definition? {line : Text} {label : Passage}
    (h : definition? line = some label) : IsDefinition line label := by
  simp only [definition?] at h
  split at h
  · rename_i rest hbody
    split at h
    · rename_i hlabel
      simp only [Bool.and_eq_true] at hlabel
      obtain rfl := Option.some.inj h
      refine ⟨line.takeWhile isWhiteSpace, rest, ?_, rfl, all_takeWhile _ _, hlabel.1, hlabel.2⟩
      rw [← hbody, List.append_assoc, List.takeWhile_append_dropWhile,
        List.takeWhile_append_dropWhile]
    · simp at h
  · simp at h

theorem definition?_eq_some {line : Text} {label : Passage} :
    definition? line = some label ↔ IsDefinition line label :=
  ⟨isDefinition_of_definition?, definition?_of_isDefinition⟩

/-- A line refers to a label in one way only. -/
theorem reference?_of_isReference {line : Text} {label : Passage} (h : IsReference line label) :
    reference? line = some label := by
  rcases h with ⟨indent, gap, rest, rfl, hstart, hindent, hne, hgap, hlabel, hrest⟩
  have hall := all_isBody_of_isLabel hlabel
  have hjump : Stops isWhiteSpace ("jump".toList ++ (gap ++ (label.text ++ rest))) :=
    stops_cons.mpr (by decide)
  have hname := stops_isWhiteSpace_of_all_isBody (ne_nil_of_isLabel hlabel) hall rest
  have hend := stops_isBody_of_endsReference hrest
  have hline : indent ++ "jump".toList ++ gap ++ label.text ++ rest =
      indent ++ ("jump".toList ++ (gap ++ (label.text ++ rest))) := by
    simp only [List.append_assoc]
  have hdrop : (indent ++ ("jump".toList ++ (gap ++ (label.text ++ rest)))).dropWhile isWhiteSpace =
      'j' :: 'u' :: 'm' :: 'p' :: (gap ++ (label.text ++ rest)) :=
    dropWhile_append_of_run hindent hjump
  have hposition : indent.length + 4 + gap.length = label.start := by
    rw [hstart]
    simp only [List.length_append]
    rfl
  rw [reference?, hline, takeWhile_append_of_run hindent hjump, hdrop]
  simp only [takeWhile_append_of_run hgap hname, dropWhile_append_of_run hgap hname,
    takeWhile_append_of_run hall hend, dropWhile_append_of_run hall hend]
  simp [hne, hlabel, hrest, hposition]

theorem isReference_of_reference? {line : Text} {label : Passage}
    (h : reference? line = some label) : IsReference line label := by
  simp only [reference?] at h
  split at h
  · rename_i target htarget
    split at h
    · rename_i hlabel
      simp only [Bool.and_eq_true, Bool.not_eq_true'] at hlabel
      rcases hlabel with ⟨⟨hgap, hname⟩, hend⟩
      obtain rfl := Option.some.inj h
      refine ⟨line.takeWhile isWhiteSpace, target.takeWhile isWhiteSpace,
        (target.dropWhile isWhiteSpace).dropWhile isBody, ?_, ?_, all_takeWhile _ _,
        by simpa using hgap, all_takeWhile _ _, hname, hend⟩
      swap
      · simp only [List.length_append]
        rfl
      have hline : line = line.takeWhile isWhiteSpace ++ ("jump".toList ++ target) := by
        rw [show "jump".toList ++ target = line.dropWhile isWhiteSpace from htarget.symm,
          List.takeWhile_append_dropWhile]
      simp only [List.append_assoc, List.takeWhile_append_dropWhile]
      exact hline
    · simp at h
  · simp at h

theorem reference?_eq_some {line : Text} {label : Passage} :
    reference? line = some label ↔ IsReference line label :=
  ⟨isReference_of_reference?, reference?_of_isReference⟩

/-- No line defines a label and refers to one: behind the `jump` of a reference there is white
space, and behind the label of a definition a colon. -/
theorem definition?_eq_none_of_reference? {line : Text} {label : Passage}
    (h : reference? line = some label) : definition? line = none := by
  cases hdefinition : definition? line with
  | none => rfl
  | some label' =>
    rcases definition?_eq_some.mp hdefinition with ⟨indent, rest, hline, -, hindent, hlabel, -⟩
    obtain ⟨indent', gap, rest', hline', -, hindent', hne, hgap, hlabel', -⟩ :=
      reference?_eq_some.mp h
    have hall := all_isBody_of_isLabel hlabel
    have hjump : ("jump".toList).all isBody = true := by decide
    -- the label of the definition would be `jump`, with the colon behind it where the gap is
    have hname := stops_isWhiteSpace_of_all_isBody (ne_nil_of_isLabel hlabel) hall (':' :: rest)
    have hname' := stops_isWhiteSpace_of_all_isBody (by decide) hjump (gap ++ (label.text ++ rest'))
    have hsame : label'.text ++ ':' :: rest = "jump".toList ++ (gap ++ (label.text ++ rest')) :=
      (run_unique hindent hindent' hname hname' (by simpa using hline.symm.trans hline')).2
    have hcolon : Stops isBody (':' :: rest) := stops_cons.mpr (by decide)
    have hafter : ':' :: rest = gap ++ (label.text ++ rest') :=
      (run_unique hall hjump hcolon (stops_isBody_of_isWhiteSpace hne hgap _) hsame).2
    cases gap with
    | nil => exact absurd rfl hne
    | cons c gap =>
      simp only [List.cons_append, List.cons.injEq] at hafter
      rw [List.all_cons, ← hafter.1] at hgap
      exact absurd hgap (by simp [show isWhiteSpace ':' = false by decide])

/-! ## The patterns -/

theorem mem_ends_label {k l : Cursor} :
    l ∈ ends [.one isHead, .many isBody] k ↔
      ∃ name rest, k.after = name ++ rest ∧ isLabel name = true ∧ l = k.pass name rest := by
  simp only [mem_ends_one_cons, mem_ends_many_cons, ends_nil, List.mem_singleton, Cursor.after_pass,
    Cursor.pass_pass]
  constructor
  · intro h
    rcases h with ⟨c, s, hk, hc, word, rest, hs, hword, rfl⟩
    exact ⟨c :: word, rest, by rw [hk, hs, List.cons_append], by simp [isLabel, hc, hword], rfl⟩
  · intro h
    rcases h with ⟨name, rest, hk, hname, rfl⟩
    cases name with
    | nil => simp [isLabel] at hname
    | cons c word =>
      simp only [isLabel, Bool.and_eq_true] at hname
      exact ⟨c, word ++ rest, hk, hname.1, word, rest, rfl, hname.2, rfl⟩

/-- The ways in which the pattern of definitions can match a line. -/
theorem exists_mem_matchesAt_definitionPattern {line : Text} {span : Span} :
    (∃ m ∈ definitionPattern.matchesAt ⟨[], line⟩, m.captured = span) ↔
      ∃ label, IsDefinition line label ∧ label.span = span := by
  -- The label first: its two items would be taken apart with the others.
  simp only [mem_matchesAt, definitionPattern, mem_ends_label]
  simp only [mem_ends_atStart_cons, mem_ends_many_cons, mem_ends_one_cons, mem_ends_atEnd_cons,
    ends_nil, List.mem_singleton, Cursor.after_pass, Cursor.pass_pass]
  constructor
  · rintro ⟨m, ⟨first, ⟨-, indent, body, rfl, hindent, rfl⟩, last, ⟨name, rest, rfl, hname, rfl⟩,
      ⟨c, s, rfl, hc, blanks, rest', rfl, hblanks, rfl, -⟩, hcaptured⟩, rfl⟩
    obtain rfl : c = ':' := by simpa using hc
    refine ⟨⟨indent.length, name⟩, ⟨indent, blanks, by simp, rfl, hindent, hname, hblanks⟩, ?_⟩
    rw [hcaptured, Cursor.position_pass, Cursor.position_pass, Cursor.position_start]
    simp [Passage.span, Passage.stop]
  · intro h
    rcases h with ⟨label, ⟨indent, rest, rfl, hstart, hindent, hlabel, hrest⟩, rfl⟩
    refine ⟨⟨label.span, _⟩,
      ⟨_, ⟨trivial, indent, label.text ++ ':' :: rest, by simp, hindent, rfl⟩, _,
      ⟨label.text, ':' :: rest, rfl, hlabel, rfl⟩,
      ⟨':', rest, rfl, by simp, rest, [], by simp, hrest, rfl, rfl⟩, ?_⟩, rfl⟩
    rw [Cursor.position_pass, Cursor.position_pass, Cursor.position_start]
    simp [Passage.span, Passage.stop, hstart]

/-- The ways in which the pattern of references can match a line. -/
theorem exists_mem_matchesAt_referencePattern {line : Text} {span : Span} :
    (∃ m ∈ referencePattern.matchesAt ⟨[], line⟩, m.captured = span) ↔
      ∃ label, IsReference line label ∧ label.span = span := by
  simp only [mem_matchesAt, referencePattern, mem_ends_label]
  simp only [mem_ends_atStart_cons, mem_ends_many_cons, mem_ends_literal_append, mem_ends_one_cons,
    mem_ends_notAhead_cons, ends_nil, List.mem_singleton, Cursor.after_pass, Cursor.pass_pass]
  constructor
  · rintro ⟨m, ⟨first, ⟨-, indent, body, rfl, hindent, target, rfl, c, s, rfl, hc, blanks, rest, rfl,
      hblanks, rfl⟩, last, ⟨name, rest', rfl, hname, rfl⟩, ⟨hrest, -⟩, hcaptured⟩, rfl⟩
    refine ⟨⟨(indent ++ "jump".toList ++ c :: blanks).length, name⟩, ⟨indent, c :: blanks, rest',
      by simp, rfl, hindent, by simp, by simp [hc, hblanks], hname, endsReference_iff.mpr hrest⟩, ?_⟩
    rw [hcaptured, Cursor.position_pass, Cursor.position_pass, Cursor.position_start]
    simp [Passage.span, Passage.stop]
  · intro h
    rcases h with ⟨label, ⟨indent, gap, rest, rfl, hstart, hindent, hne, hgap, hlabel, hrest⟩, rfl⟩
    cases gap with
    | nil => exact absurd rfl hne
    | cons c blanks =>
      simp only [List.all_cons, Bool.and_eq_true] at hgap
      refine ⟨⟨label.span, _⟩, ⟨_, ⟨trivial, indent,
        "jump".toList ++ (c :: (blanks ++ (label.text ++ rest))), by simp, hindent, _, rfl, c, _, rfl,
        hgap.1, blanks, _, rfl, hgap.2, rfl⟩, _, ⟨label.text, rest, rfl, hlabel, rfl⟩,
        ⟨endsReference_iff.mp hrest, rfl⟩, ?_⟩, rfl⟩
      rw [Cursor.position_pass, Cursor.position_pass, Cursor.position_start]
      simp [Passage.span, Passage.stop, hstart]

/-- The pattern of definitions finds the label that a line defines. -/
theorem spans_definitionPattern (line : Text) :
    definitionPattern.spans line = (definition? line).toList.map (·.span) := by
  refine spans_of_anchored ⟨_, rfl⟩ ?_ ?_
  · intro m hm
    rcases exists_mem_matchesAt_definitionPattern.mp ⟨m, hm, rfl⟩ with ⟨label, hlabel, hspan⟩
    exact ⟨label, definition?_eq_some.mpr hlabel, hspan.symm⟩
  · intro label hlabel
    have hdefinition := definition?_eq_some.mp hlabel
    refine ⟨?_, exists_mem_matchesAt_definitionPattern.mpr ⟨label, hdefinition, rfl⟩⟩
    rcases hdefinition with ⟨_, _, _, _, _, hname, _⟩
    exact ne_nil_of_isLabel hname

/-- The pattern of references finds the label that a line refers to. -/
theorem spans_referencePattern (line : Text) :
    referencePattern.spans line = (reference? line).toList.map (·.span) := by
  refine spans_of_anchored ⟨_, rfl⟩ ?_ ?_
  · intro m hm
    rcases exists_mem_matchesAt_referencePattern.mp ⟨m, hm, rfl⟩ with ⟨label, hlabel, hspan⟩
    exact ⟨label, reference?_eq_some.mpr hlabel, hspan.symm⟩
  · intro label hlabel
    have hreference := reference?_eq_some.mp hlabel
    refine ⟨?_, exists_mem_matchesAt_referencePattern.mpr ⟨label, hreference, rfl⟩⟩
    rcases hreference with ⟨_, _, _, _, _, _, _, _, hname, _⟩
    exact ne_nil_of_isLabel hname

/-! ## Labels as words -/

theorem all_wordBody_of_isLabel {name : Text} (h : isLabel name = true) :
    name.all Word.isBody = true := by
  have hall := all_isBody_of_isLabel h
  simp only [List.all_eq_true] at hall ⊢
  exact fun c hc => wordBody_of_isBody (hall c hc)

/-- A label begins like a word. -/
theorem beginsWord_of_isLabel {name : Text} (h : isLabel name = true) :
    Word.beginsWord name = true := by
  cases name with
  | nil => simp [isLabel] at h
  | cons c s =>
    simp only [isLabel, Bool.and_eq_true] at h
    simp [Word.beginsWord, wordHead_of_isHead h.1]

theorem stops_wordBody_of_isWhiteSpace {s : Text} (hs : s.all isWhiteSpace = true) :
    Stops Word.isBody s := by
  cases s with
  | nil => rfl
  | cons c s =>
    simp only [List.all_cons, Bool.and_eq_true] at hs
    simpa using Word.isBody_of_isWhiteSpace hs.1

/-- A label that is defined is a whole run of word characters. -/
theorem isRun_of_definition? {line : Text} {label : Passage} (h : definition? line = some label) :
    IsRun Word.isBody line label := by
  rcases definition?_eq_some.mp h with ⟨indent, rest, hline, hstart, hindent, hlabel, -⟩
  refine ⟨indent, ':' :: rest, hline, by simpa using hstart, ne_nil_of_isLabel hlabel,
    all_wordBody_of_isLabel hlabel, ?_, stops_cons.mpr (by decide)⟩
  exact stops_wordBody_of_isWhiteSpace (by simpa using hindent)

/-- A label that is referred to is a whole run of word characters. -/
theorem isRun_of_reference? {line : Text} {label : Passage} (h : reference? line = some label) :
    IsRun Word.isBody line label := by
  rcases reference?_eq_some.mp h with ⟨indent, gap, rest, hline, hstart, -, hne, hgap, hlabel, hend⟩
  refine ⟨indent ++ "jump" ++ gap, rest, hline, by simpa using hstart, ne_nil_of_isLabel hlabel,
    all_wordBody_of_isLabel hlabel, ?_, ?_⟩
  · rw [List.reverse_append, stops_append_of_ne_nil (by simpa using hne)]
    exact stops_wordBody_of_isWhiteSpace (by simpa using hgap)
  · cases rest with
    | nil => rfl
    | cons c rest =>
      simp only [endsReference, Bool.or_eq_true, beq_iff_eq] at hend
      rcases hend with hend | rfl
      · simpa using Word.isBody_of_isWhiteSpace hend
      · exact stops_cons.mpr (by decide)

end MlogHighlight.Label
