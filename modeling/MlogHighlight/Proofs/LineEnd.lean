import MlogHighlight.Proofs.Locality
import MlogHighlight.Proofs.Preparation

/-!
# The two ways to end a line

Carriage returns in front of a line feed belong to the end of the line, and a line is classified
without its end. So a text whose lines end in a carriage return and a line feed is classified like
the text whose lines end in a line feed only; only the places of the lines differ. Main facts:

* `Text.forall₂_lines_addReturns`: the lines of both texts, one for one;
* `RuleTable.relative_annotateLine`: what the annotations of a line depend on;
* `RuleTable.annotateLines_addReturns`: the annotations in both texts.
-/

namespace MlogHighlight

open Text

namespace Text

/-- Every line feed gets a carriage return in front of it. -/
def addReturns (s : Text) : Text := s.flatMap fun c => if c = '\n' then ['\r', '\n'] else [c]

/-! ## Lines -/

theorem addReturns_of_notMem {s : Text} (h : '\n' ∉ s) : s.addReturns = s := by
  induction s with
  | nil => rfl
  | cons c s ih =>
    rw [List.mem_cons, not_or] at h
    rw [addReturns, List.flatMap_cons, if_neg (Ne.symm h.1), List.singleton_append]
    exact congrArg (c :: ·) (ih h.2)

/-- A line gets its carriage return, and then the lines behind it theirs. -/
theorem addReturns_line {body : Text} (hbody : '\n' ∉ body) (rest : Text) :
    (body ++ '\n' :: rest).addReturns = (body ++ ['\r']) ++ '\n' :: rest.addReturns := by
  have hfront := addReturns_of_notMem hbody
  unfold addReturns at hfront ⊢
  rw [List.flatMap_append, hfront, List.flatMap_cons, if_pos rfl, List.append_assoc]
  rfl

/-- The second line is the first one with carriage returns, and without their ends they are the
same. -/
def SameLine (line line' : Passage) : Prop :=
  line'.text = line.text.addReturns ∧
    line'.text.trimEnd isLineEnd = line.text.trimEnd isLineEnd

theorem sameLine_of_notMem {body : Text} (hbody : '\n' ∉ body) (pos pos' : Nat) :
    SameLine ⟨pos, body⟩ ⟨pos', body⟩ := ⟨(addReturns_of_notMem hbody).symm, rfl⟩

theorem sameLine_lineFeed {body : Text} (hbody : '\n' ∉ body) (pos pos' : Nat) :
    SameLine ⟨pos, body ++ ['\n']⟩ ⟨pos', body ++ ['\r'] ++ ['\n']⟩ := by
  constructor
  · exact (addReturns_line hbody []).symm
  · change (body ++ ['\r'] ++ ['\n']).trimEnd isLineEnd = (body ++ ['\n']).trimEnd isLineEnd
    rw [trimEnd_concat_of_pos (by decide), trimEnd_concat_of_pos (by decide),
      trimEnd_concat_of_pos (by decide)]

/-- The lines of a text are one for one those of the text with carriage returns, wherever the two
texts start. -/
theorem forall₂_linesFrom_addReturns (pos pos' : Nat) (s : Text) :
    List.Forall₂ SameLine (linesFrom pos s) (linesFrom pos' s.addReturns) := by
  induction s using line_induction generalizing pos pos' with
  | nil => exact List.Forall₂.nil
  | last body hne hbody =>
    rw [addReturns_of_notMem hbody, linesFrom_last hne hbody, linesFrom_last hne hbody]
    exact List.Forall₂.cons (sameLine_of_notMem hbody pos pos') List.Forall₂.nil
  | line body rest hbody ih =>
    have hreturn : '\n' ∉ body ++ ['\r'] := by simpa using hbody
    rw [addReturns_line hbody, linesFrom_line hbody, linesFrom_line hreturn]
    exact List.Forall₂.cons (sameLine_lineFeed hbody pos pos') (ih _ _)

theorem forall₂_lines_addReturns (s : Text) :
    List.Forall₂ SameLine (lines s) (lines s.addReturns) := forall₂_linesFrom_addReturns 0 0 s

end Text

/-! ## Annotations -/

/-- The annotations of a line at their positions in the line. -/
def AnnotatedLine.relative (l : AnnotatedLine) : List Annotation :=
  l.annotations.map (·.shift (-l.line.start))

namespace RuleTable

variable (table : RuleTable)

/-- In the line, the annotations depend on the line without its end only. -/
theorem relative_annotateLine (line : Passage) :
    (table.annotateLine line).relative = table.classify (line.text.trimEnd isLineEnd) 0 := by
  have hmoved := table.classify_add (line.text.trimEnd isLineEnd) line.start (-line.start)
  rw [Int.add_right_neg] at hmoved
  exact hmoved.symm

/-- No annotation reaches into the end of its line. -/
theorem bounds_of_mem_annotateLines {text : Text} {l : AnnotatedLine}
    (hl : l ∈ table.annotateLines text) {front back : Text} (hline : l.line.text = front ++ back)
    (hback : back.all isLineEnd = true) {a : Annotation} (ha : a ∈ l.annotations) :
    l.line.start ≤ a.start ∧ a.start < a.stop ∧ a.stop ≤ l.line.start + front.length := by
  rw [(table.mem_annotateLines hl).2] at ha
  have hbounds := table.bounds_of_mem_classify _ ha
  have htrim := front.length_trimEnd_le isLineEnd
  rw [hline, trimEnd_append_of_all hback] at hbounds
  omega

/-- Texts are classified alike whether their lines end in a line feed or in a carriage return and a
line feed, also when they hold other carriage returns. The lines are one for one the same but for
their ends, and have the same annotations at the same positions in the line. In any text, no
annotation of a line covers a character of its end, which is made up of all the line feeds and
carriage returns that nothing else follows. -/
theorem annotateLines_addReturns (table : RuleTable) (text : Text) :
    List.Forall₂ (fun l l' => l'.line.text = l.line.text.addReturns ∧ l'.relative = l.relative)
      (table.annotateLines text) (table.annotateLines text.addReturns) ∧
    ∀ l ∈ table.annotateLines text, ∀ front back : Text,
      l.line.text = front ++ back → back.all isLineEnd = true → ∀ a ∈ l.annotations,
        l.line.start ≤ a.start ∧ a.start < a.stop ∧ a.stop ≤ l.line.start + front.length := by
  constructor
  · rw [annotateLines_eq, annotateLines_eq, List.forall₂_map_left_iff, List.forall₂_map_right_iff]
    refine (forall₂_lines_addReturns text).imp ?_
    intro line line' hline
    refine ⟨hline.1, ?_⟩
    rw [relative_annotateLine, relative_annotateLine, hline.2]
  · intro l hl front back hline hback a ha
    exact table.bounds_of_mem_annotateLines hl hline hback ha

/-- A comment with a carriage return in it, and one more in front of the line feed. -/
example : (annotateLines structural "#\r#\r\nend:").map (·.relative) =
    [[⟨0, 3, "comment"⟩], [⟨0, 3, "function-name"⟩]] ∧
    (annotateLines structural (Text.addReturns "#\r#\r\nend:")).map (·.relative) =
    [[⟨0, 3, "comment"⟩], [⟨0, 3, "function-name"⟩]] := by
  decide

end RuleTable

end MlogHighlight
