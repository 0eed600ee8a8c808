import MlogHighlight.Proofs.Listing
import MlogHighlight.Prompt

/-!
# Answers at a prompt say what a listing says

Lines that are typed at a prompt are classified one by one, the lines of a text are split off it and
classified at their places. What is printed is the same: an answer is an entry of the listing without
the name, the number of the line and the colon behind the positions. Main facts:

* `Text.filter_numbered`: what is said with the number of a line is said about that line;
* `Listing.asAnswer_render`: what is left of the entry of a mark is the annotation in words;
* `Listing.map_recordsFrom_join`: the entries of a text are the annotations of its lines, each line
  classified on its own;
* `Prompt.transcript_listing`: what is printed at a prompt for some lines.
-/

namespace MlogHighlight

open Text

/-! ## What is said about lines -/

namespace Text

variable {β : Type} (said : Text → List β)

/-- What is said about lines, each thing with the number of its line. -/
def numbered (lines : List Text) (number : Nat) : List (Nat × β) :=
  (lines.zipIdx number).flatMap fun (line, i) => (said line).map fun b => (i, b)

theorem numbered_cons (line : Text) (lines : List Text) (number : Nat) :
    numbered said (line :: lines) number =
      (said line).map (fun b => (number, b)) ++ numbered said lines (number + 1) := rfl

theorem map_snd_numbered (lines : List Text) (number : Nat) :
    (numbered said lines number).map (·.2) = lines.flatMap said := by
  induction lines generalizing number with
  | nil => rfl
  | cons line lines ih =>
    rw [numbered_cons, List.map_append, ih, List.map_map, List.flatMap_cons]
    congr 1
    exact List.map_id _

theorem le_of_mem_numbered {lines : List Text} {number : Nat} {b : Nat × β}
    (h : b ∈ numbered said lines number) : number ≤ b.1 := by
  induction lines generalizing number with
  | nil => simp [numbered] at h
  | cons line lines ih =>
    rw [numbered_cons, List.mem_append] at h
    rcases h with h | h
    · rcases List.mem_map.mp h with ⟨c, -, rfl⟩
      exact Nat.le_refl _
    · exact Nat.le_of_succ_le (ih h)

/-- What is said with the number of a line is said about that line. -/
theorem filter_numbered (before : List Text) (line : Text) (after : List Text) (number : Nat) :
    (numbered said (before ++ line :: after) number).filter (·.1 = before.length + number) =
      (said line).map fun b => (before.length + number, b) := by
  induction before generalizing number with
  | nil =>
    have hfirst : ((said line).map fun b => (number, b)).filter (·.1 = number) =
        (said line).map fun b => (number, b) := List.filter_eq_self.mpr (by simp)
    have hlater : (numbered said after (number + 1)).filter (·.1 = number) = [] := by
      rw [List.filter_eq_nil_iff]
      intro b hb
      have hle := le_of_mem_numbered said hb
      simp only [decide_eq_true_eq]
      omega
    rw [List.nil_append, numbered_cons, List.filter_append, List.length_nil, Nat.zero_add, hfirst,
      hlater, List.append_nil]
  | cons first before ih =>
    have hfirst : ((said first).map fun b => (number, b)).filter
        (·.1 = before.length + (number + 1)) = [] := List.filter_eq_nil_iff.mpr (by simp; omega)
    have hnumber : before.length + 1 + number = before.length + (number + 1) := by omega
    rw [List.cons_append, numbered_cons, List.filter_append, List.length_cons, hnumber, hfirst, ih,
      List.nil_append]

end Text

namespace Listing

/-! ## Entries and answers -/

/-- What an entry of a listing begins with: the name of the text and the number of the line. -/
def heading (name : Text) (number : Nat) : Text := name ++ ":" ++ Text.ofNat number ++ ":"

/-- The text with a space for the first colon and space. -/
def dropColon : Text → Text
  | [] => []
  | ':' :: ' ' :: s => ' ' :: s
  | c :: s => c :: dropColon s

/-- An entry of a listing without its heading, and with a space for the first colon and space that
are left. -/
def asAnswer (name : Text) (number : Nat) (entry : Text) : Text :=
  dropColon (entry.drop (heading name number).length)

/-- The first colon and space are where the first space is, if a colon stands in front of that. -/
theorem dropColon_append {front : Text} (hfront : ' ' ∉ front) (back : Text) :
    dropColon (front ++ ':' :: ' ' :: back) = front ++ ' ' :: back := by
  induction front with
  | nil => rfl
  | cons c front ih =>
    rw [List.mem_cons, not_or] at hfront
    have hnext : ∀ s, c = ':' → front ++ ':' :: ' ' :: back = ' ' :: s → False := by
      intro s _ hs
      cases front with
      | nil => exact absurd (List.cons.inj hs).1 (by decide)
      | cons d front =>
        rw [List.cons_append, List.cons.injEq] at hs
        exact hfront.2 (hs.1 ▸ List.mem_cons_self ..)
    rw [List.cons_append, dropColon, ih hfront.2, List.cons_append]
    exact hnext

theorem heading_prefix_render (name : Text) (r : Record) : heading name r.line <+: r.render name := by
  unfold heading Record.render
  simp only [List.append_assoc, List.prefix_append_right_inj]
  exact List.prefix_append _ _

/-- What is left of the entry of a mark is the annotation in words. -/
theorem asAnswer_render {table : RuleTable} (name : Text) (number pos : Nat) {body : Text}
    (back : Text) {m : Mark} (hm : m ∈ table.marks body) :
    asAnswer name number ((record number ⟨pos, body ++ back⟩ m).render name) =
      (m.annotate 0).describe body := by
  have hne := (table.marks_separate body).nonempty m hm
  have hentry : (record number ⟨pos, body ++ back⟩ m).render name = heading name number ++
      ((Text.ofNat m.span.start ++ '-' :: Text.ofNat m.span.stop) ++ ':' :: ' ' ::
        (m.category ++ ' ' :: Text.quoted ((body.drop m.span.start).take m.span.length))) := by
    rw [record_append number pos back hm, Span.content, List.drop_take]
    simp [Record.render, heading, Span.length]
  rw [hentry, asAnswer, List.drop_left, dropColon_append (space_notMem_positions _ _),
    Mark.describe_annotate hne (RuleTable.stop_le_of_mem_marks hm)]

/-! ## The entries of a text -/

/-- A record as an answer, with the number of its line. -/
def Record.answer (name : Text) (r : Record) : Nat × Text :=
  (r.line, asAnswer name r.line (r.render name))

variable (table : RuleTable)

/-- What is said about a line on its own. -/
def told (line : Text) : List Text := (table.classify line 0).map (·.describe line)

/-- The entries of a line say what is said about the line on its own. -/
theorem map_record (name : Text) (number pos : Nat) {body : Text}
    (hbody : '\n' ∉ body ∧ '\r' ∉ body) (back : Text) (hback : back.all isLineEnd = true) :
    ((table.marks ((body ++ back).trimEnd isLineEnd)).map (record number ⟨pos, body ++ back⟩)).map
        (Record.answer name) = (told table body).map fun b => (number, b) := by
  have hstops : Stops isLineEnd body.reverse := by
    cases hlast : body.reverse with
    | nil => exact stops_nil
    | cons c front =>
      have hc : c ∈ body := by
        rw [← List.mem_reverse, hlast]
        exact List.mem_cons_self ..
      rw [stops_cons, isLineEnd, Bool.or_eq_false_iff, beq_eq_false_iff_ne, beq_eq_false_iff_ne]
      exact ⟨fun h => hbody.2 (h ▸ hc), fun h => hbody.1 (h ▸ hc)⟩
  rw [trimEnd_append_of_all hback, trimEnd_of_stops hstops, told, RuleTable.classify, List.map_map,
    List.map_map, List.map_map]
  apply List.map_congr_left
  intro m hm
  exact congrArg (Prod.mk number) (asAnswer_render name number pos back hm)

/-- The entries of the text that lines make up say what is said about the lines, each on its own. -/
theorem map_recordsFrom_join (name : Text) {lines : List Text}
    (hlines : ∀ line ∈ lines, '\n' ∉ line ∧ '\r' ∉ line) (number pos : Nat) :
    (recordsFrom number ((linesFrom pos (join "\n" lines)).map fun line =>
        ⟨line, table.marks (line.text.trimEnd isLineEnd)⟩)).map (Record.answer name) =
      numbered (told table) lines number := by
  induction lines generalizing number pos with
  | nil => rfl
  | cons line later ih =>
    rcases List.forall_mem_cons.mp hlines with ⟨hline, hlater⟩
    cases later with
    | nil =>
      -- the last line has no line feed, and is no line of the text if it is empty
      rw [join, numbered_cons]
      by_cases hempty : line = []
      · simp [hempty, linesFrom, recordsFrom, told, RuleTable.classify, RuleTable.marks_nil, numbered]
      · have hrecord := map_record table name number pos hline [] rfl
        rw [List.append_nil] at hrecord
        rw [linesFrom_last hempty hline.1, ← hrecord]
        simp [recordsFrom, numbered]
    | cons next later =>
      have hjoin : join "\n" (line :: next :: later) = line ++ '\n' :: join "\n" (next :: later) := by
        simp [join]
      have hrecord := map_record table name number pos hline ['\n'] rfl
      rw [hjoin, linesFrom_line hline.1, List.map_cons, recordsFrom, List.map_append, hrecord,
        ih hlater, numbered_cons _ line]

end Listing

namespace Prompt

/-- Lines at a prompt are answered as a listing of the text that they make up reads. Every entry of
the listing begins with the name of the text and the number of a line; without that, and with a space
for the colon and space that come next, the entries are what is printed, up to an empty line at the
end. They belong to the lines in order, and those of a line are its annotations on its own: no other
line has a say in them. -/
theorem transcript_listing (table : RuleTable) (name : Text) {lines : List Text}
    (hlines : ∀ line ∈ lines, '\n' ∉ line ∧ '\r' ∉ line) :
    let records := Listing.records table (Text.join "\n" lines)
    let answers := records.map fun r => (r.line, Listing.asAnswer name r.line (r.render name))
    Format.annotations.render table name (Text.join "\n" lines) =
        .ok (records.flatMap fun r => Text.endLine (r.render name)) ∧
      (∀ r ∈ records, Listing.heading name r.line <+: r.render name) ∧
      transcript [] table lines = answers.flatMap (fun a => Text.endLine a.2) ++ ['\n'] ∧
      answers = (lines.zipIdx 1).flatMap (fun (line, number) =>
        ((table.classify line 0).map (·.describe line)).map fun b => (number, b)) ∧
      ∀ before line after, lines = before ++ line :: after → Prompt.answer table line =
        (answers.filter (·.1 = before.length + 1)).flatMap fun a => Text.endLine a.2 := by
  intro records answers
  have hanswers : answers = numbered (Listing.told table) lines 1 :=
    Listing.map_recordsFrom_join table name hlines 1 0
  have hanswer : ∀ line, Prompt.answer table line = (Listing.told table line).flatMap Text.endLine := by
    intro line
    rw [Listing.told, List.flatMap_map]
    rfl
  refine ⟨rfl, fun r _ => Listing.heading_prefix_render name r, ?_, hanswers, ?_⟩
  · have hsaid := map_snd_numbered (Listing.told table) lines 1
    rw [← hanswers] at hsaid
    have hprinted : answers.flatMap (fun a => Text.endLine a.2) =
        (answers.map (·.2)).flatMap Text.endLine := (List.flatMap_map ..).symm
    rw [hprinted, hsaid, List.flatMap_assoc]
    simp only [transcript, Prompt.answers, hanswer, List.nil_append]
    rfl
  · rintro before line after rfl
    have hfilter := filter_numbered (Listing.told table) before line after 1
    rw [← hanswers] at hfilter
    rw [hfilter, hanswer, List.flatMap_map]

/-- A label, an empty line and a jump, in a text whose name looks like the heading of an entry. -/
theorem transcript_listing_jump :
    (∀ line ∈ (["end:", "", "jump end", ""] : List Text), '\n' ∉ line ∧ '\r' ∉ line) ∧
      Format.annotations.render RuleTable.structural "x:1:0-3: y"
          (Text.join "\n" ["end:", "", "jump end", ""]) =
        .ok ("x:1:0-3: y:1:0-3: function-name 'end'\nx:1:0-3: y:3:5-8: function-name 'end'\n" : String) ∧
      transcript [] RuleTable.structural ["end:", "", "jump end", ""] =
        "0-3 function-name 'end'\n5-8 function-name 'end'\n\n" := by
  have hlines : ∀ line ∈ (["end:", "", "jump end", ""] : List Text), '\n' ∉ line ∧ '\r' ∉ line := by
    decide
  rcases transcript_listing RuleTable.structural "x:1:0-3: y" hlines with
    ⟨hlisting, -, htranscript, -, -⟩
  refine ⟨hlines, ?_, ?_⟩
  · rw [hlisting]
    decide
  · rw [htranscript]
    decide

end Prompt

end MlogHighlight
