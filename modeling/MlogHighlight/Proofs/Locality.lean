import MlogHighlight.Proofs.Tiling

/-!
# Lines are classified one by one

The annotations of a line depend on the line alone; where the line stands only moves them. So the
lines of a text can be told from those of its parts, and a change of one line is not noticed by the
others. Main facts:

* `RuleTable.annotateLine_shift`: a line that is moved takes its annotations with it;
* `RuleTable.annotateLines_append`: the annotations of a text and those of what follows it;
* `RuleTable.annotateLines_local`: what this says of a part in the middle of a text.
-/

namespace MlogHighlight

open Text

/-! ## Annotated lines -/

/-- A line of a text, and its annotations at their positions in the text. -/
structure AnnotatedLine where
  line : Passage
  annotations : List Annotation
deriving DecidableEq, Repr

/-- The line and its annotations at a place further on. -/
def AnnotatedLine.shift (l : AnnotatedLine) (distance : Nat) : AnnotatedLine :=
  ⟨l.line.shift distance, l.annotations.map (·.shift distance)⟩

namespace RuleTable

variable (table : RuleTable)

/-- The lines of a text with their annotations. -/
def annotateLines (text : Text) : List AnnotatedLine :=
  (table.markLines text).map fun l => ⟨l.line, l.annotations⟩

/-- A line is classified without its line end. -/
def annotateLine (line : Passage) : AnnotatedLine :=
  ⟨line, table.classify (line.text.trimEnd isLineEnd) line.start⟩

@[simp] theorem annotateLine_line (line : Passage) : (table.annotateLine line).line = line := rfl

theorem annotateLines_eq (text : Text) :
    table.annotateLines text = text.lines.map table.annotateLine := by
  unfold annotateLines markLines
  rw [List.map_map]
  rfl

theorem map_line_annotateLines (text : Text) :
    (table.annotateLines text).map (·.line) = text.lines := by
  rw [annotateLines_eq, List.map_map]
  exact List.map_id _

/-- The offset of a line is added to its annotations and does not change them otherwise. -/
theorem classify_add (line : Text) (offset distance : Int) :
    table.classify line (offset + distance) =
      (table.classify line offset).map (·.shift distance) := by
  unfold classify
  rw [List.map_map]
  apply List.map_congr_left
  intro m _
  simp [Mark.annotate, Annotation.shift, Int.add_assoc]

/-- A line that is moved takes its annotations with it. -/
theorem annotateLine_shift (line : Passage) (distance : Nat) :
    table.annotateLine (line.shift distance) = (table.annotateLine line).shift distance := by
  unfold annotateLine AnnotatedLine.shift
  rw [← classify_add]
  rfl

/-- The annotations of a text, and behind them, moved, those of what follows it. -/
theorem annotateLines_append {front : Text} (hfront : EndsLine front) (back : Text) :
    table.annotateLines (front ++ back) =
      table.annotateLines front ++ (table.annotateLines back).map (·.shift front.length) := by
  simp only [annotateLines_eq, lines_append hfront, List.map_append, List.map_map]
  congr 1
  apply List.map_congr_left
  intro line _
  exact table.annotateLine_shift line front.length

end RuleTable

/-! ## The lines of a text -/

namespace RuleTable

variable (table : RuleTable)

theorem mem_annotateLines {text : Text} {l : AnnotatedLine} (h : l ∈ table.annotateLines text) :
    l.line ∈ text.lines ∧ l = table.annotateLine l.line := by
  rw [annotateLines_eq] at h
  rcases List.mem_map.mp h with ⟨line, hline, rfl⟩
  exact ⟨hline, rfl⟩

/-- The annotations of a line are those it has on its own, moved to where it stands. -/
theorem annotations_of_mem_annotateLines {text : Text} {l : AnnotatedLine}
    (h : l ∈ table.annotateLines text) :
    l.annotations =
      (table.classify (l.line.text.trimEnd isLineEnd) 0).map (·.shift l.line.start) := by
  have hline := congrArg AnnotatedLine.annotations (table.mem_annotateLines h).2
  have hmoved := table.classify_add (l.line.text.trimEnd isLineEnd) 0 l.line.start
  rw [Int.zero_add] at hmoved
  exact hline.trans hmoved

/-- A line starts behind the lines before it, and ends in a line feed if it is not the last. -/
theorem annotateLines_eq_append {text : Text} {before after : List AnnotatedLine} {l : AnnotatedLine}
    (h : table.annotateLines text = before ++ l :: after) :
    l.line.start = (before.map (·.line.text.length)).sum ∧
      (after ≠ [] → l.line.text.getLast? = some '\n') := by
  have hlines : text.lines = before.map (·.line) ++ l.line :: after.map (·.line) := by
    rw [← table.map_line_annotateLines, h, List.map_append, List.map_cons]
  constructor
  · have hstart := (tiles_lines text).start_eq hlines
    rw [List.map_map, Nat.zero_add] at hstart
    exact hstart
  · intro hafter
    apply getLast?_of_linesFrom_eq hlines
    simpa using hafter

/-- Lines are classified one by one. The lines of a text are not empty, hold a line feed only at
their end, join up to the text, start behind the lines before them and, but for the last one, end in
a line feed; each has the annotations it has on its own, moved to where it stands. What follows the
end of a line is classified as on its own and moved. So whatever stands in the middle of a text, the
lines before it are the same, and those behind it are only moved. -/
theorem annotateLines_local (table : RuleTable) :
    (∀ text : Text,
      (∀ l ∈ table.annotateLines text, l.line.text ≠ [] ∧ '\n' ∉ l.line.text.dropLast ∧
        l.annotations =
          (table.classify (l.line.text.trimEnd isLineEnd) 0).map (·.shift l.line.start)) ∧
      (table.annotateLines text).flatMap (·.line.text) = text ∧
      ∀ before l after, table.annotateLines text = before ++ l :: after →
        l.line.start = (before.map (·.line.text.length)).sum ∧
          (after ≠ [] → l.line.text.getLast? = some '\n')) ∧
    (∀ front back : Text, EndsLine front →
      table.annotateLines (front ++ back) =
        table.annotateLines front ++ (table.annotateLines back).map (·.shift front.length)) ∧
    ∀ front middle back : Text, EndsLine front → EndsLine middle ∨ back = [] →
      table.annotateLines (front ++ middle ++ back) =
        table.annotateLines front ++ (table.annotateLines middle).map (·.shift front.length) ++
          (table.annotateLines back).map (·.shift (front ++ middle).length) := by
  refine ⟨?_, ?_, ?_⟩
  · intro text
    refine ⟨?_, ?_, ?_⟩
    · intro l hl
      have hline := (table.mem_annotateLines hl).1
      exact ⟨(tiles_lines text).ne_nil hline, notMem_dropLast_of_mem_linesFrom hline,
        table.annotations_of_mem_annotateLines hl⟩
    · have hjoin := flatMap_text_lines text
      rw [← table.map_line_annotateLines, List.flatMap_map] at hjoin
      exact hjoin
    · intro before l after h
      exact table.annotateLines_eq_append h
  · intro front back hfront
    exact table.annotateLines_append hfront back
  · intro front middle back hfront hmiddle
    rcases hmiddle with hmiddle | rfl
    · rw [table.annotateLines_append (hfront.append hmiddle), table.annotateLines_append hfront]
    · have hnil : table.annotateLines [] = [] := rfl
      rw [List.append_nil, table.annotateLines_append hfront, hnil, List.map_nil, List.append_nil]

/-- A jump between the label and a last line without a line feed. -/
theorem annotateLines_local_jump :
    EndsLine "end:\n" ∧ EndsLine "jump end\r\n" ∧
    annotateLines structural (("end:\n" : Text) ++ "jump end\r\n" ++ "# x") =
      [⟨⟨0, "end:\n"⟩, [⟨0, 3, "function-name"⟩]⟩,
        ⟨⟨5, "jump end\r\n"⟩, [⟨10, 13, "function-name"⟩]⟩,
        ⟨⟨15, "# x"⟩, [⟨15, 18, "comment"⟩]⟩] := by
  have hlabel : EndsLine "end:\n" := Or.inr (by decide)
  have hjump : EndsLine "jump end\r\n" := Or.inr (by decide)
  refine ⟨hlabel, hjump, ?_⟩
  rw [(annotateLines_local structural).2.2 "end:\n" "jump end\r\n" "# x" hlabel (Or.inl hjump)]
  decide

end RuleTable

end MlogHighlight
