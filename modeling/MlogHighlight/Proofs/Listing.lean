import MlogHighlight.Proofs.Agreement
import MlogHighlight.Proofs.Quoted

/-!
# Listings are exact and can be read back

A listing has one line for each annotation, which says where the annotation is and what it is about.
Seen from its end such a line can be divided in one way only: the quoted characters show where they
begin, and the fields in front of them are free of the character that stands before them, whatever
the name of the text is. Main facts:

* `Listing.records_eq`: the records of a listing are the annotations, each with its place;
* `Listing.map_subject_records`: the places lead back to the annotations;
* `Listing.Record.render_record`: the line of a record is the annotation in words, in its line;
* `Listing.render_eq_print`: a listing, from the annotations of the lines;
* `Listing.Record.eq_of_render`: the line of a record can be divided in one way only;
* `Format.render_listing`: what this says of the output.
-/

namespace MlogHighlight

open Text

/-! ## Places -/

/-- The number of characters between the start of the line that a position is in and the position. -/
def Text.column (text : Text) (pos : Nat) : Nat :=
  ((text.take pos).reverse.takeWhile (· ≠ '\n')).length

namespace Text

/-- A text can be divided in one way only at the last place where a character stands. -/
theorem eq_of_append_of_notMem {c : Char} {front front' back back' : Text} (hback : c ∉ back)
    (hback' : c ∉ back') (h : front ++ c :: back = front' ++ c :: back') :
    front = front' ∧ back = back' := by
  have hreverse := congrArg List.reverse h
  simp only [List.reverse_append, List.reverse_cons, List.append_assoc, List.singleton_append]
    at hreverse
  have hall : back.reverse.all (· ≠ c) = true := all_ne_of_notMem (by simpa using hback)
  have hall' : back'.reverse.all (· ≠ c) = true := all_ne_of_notMem (by simpa using hback')
  rcases run_unique hall hall' (by simp) (by simp) hreverse with ⟨hbacks, hfronts⟩
  rw [List.cons.injEq] at hfronts
  exact ⟨List.reverse_injective hfronts.2, List.reverse_injective hbacks⟩

variable {front body : Text} {i : Nat}

theorem take_line (rest : Text) (hi : i ≤ body.length) :
    (front ++ body ++ rest).take (front.length + i) = front ++ body.take i := by
  rw [List.append_assoc, List.take_length_add_append, List.take_append_of_le_length hi]

theorem lineFeed_notMem_take (hbody : '\n' ∉ body) : '\n' ∉ body.take i :=
  fun hmem => hbody (List.mem_of_mem_take hmem)

/-- A position in a line is in that line. -/
theorem lineNumber_line (rest : Text) (hbody : '\n' ∉ body) (hi : i ≤ body.length) :
    (front ++ body ++ rest).lineNumber (front.length + i) = front.count '\n' := by
  rw [lineNumber, take_line rest hi, List.count_append,
    List.count_eq_zero.mpr (lineFeed_notMem_take hbody), Nat.add_zero]

/-- A position in a line is as far behind its start as it is behind what is in front of the line. -/
theorem column_line (rest : Text) (hfront : EndsLine front) (hbody : '\n' ∉ body)
    (hi : i ≤ body.length) : (front ++ body ++ rest).column (front.length + i) = i := by
  rw [column, take_line rest hi, takeWhile_reverse_line hfront (lineFeed_notMem_take hbody),
    List.length_reverse, List.length_take_of_le hi]

end Text

/-! ## Annotations and records -/

/-- The record of an annotation of a text. -/
def Annotation.record (text : Text) (a : Annotation) : Listing.Record where
  line := text.lineNumber a.start.toNat + 1
  start := text.column a.start.toNat
  stop := text.column a.start.toNat + (a.stop - a.start).toNat
  category := a.category
  text := text.slice a.start a.stop

/-- The annotation of a text that a record is about. -/
def Listing.Record.subject (text : Text) (r : Listing.Record) : Annotation :=
  ⟨(text.lineStart r.line + r.start : Nat), (text.lineStart r.line + r.stop : Nat), r.category⟩

namespace RuleTable

variable (table : RuleTable) (text : Text)

theorem annotations_eq : table.annotations text =
    text.lines.flatMap fun line => table.classify (line.text.trimEnd isLineEnd) line.start := by
  unfold annotations markLines
  rw [List.flatMap_map]
  rfl

/-- The annotations of a line of a text lie inside the line. -/
theorem bounds_of_mem_line {line : Passage} {a : Annotation}
    (ha : a ∈ table.classify (line.text.trimEnd isLineEnd) line.start) :
    (line.start : Int) ≤ a.start ∧ a.start < a.stop ∧ a.stop ≤ line.stop := by
  have hbounds := table.bounds_of_mem_classify _ ha
  have htrim := line.text.length_trimEnd_le isLineEnd
  simp only [Passage.stop]
  omega

/-- The annotations of a text are in order and do not overlap. -/
theorem annotations_pairwise : (table.annotations text).Pairwise fun a b => a.stop ≤ b.start := by
  rw [annotations_eq, List.pairwise_flatMap]
  constructor
  · intro line _
    exact (table.classify_separate _ line.start).imp And.right
  · refine (tiles_lines text).pairwise.imp ?_
    intro line line' hlines a ha b hb
    have hfirst := table.bounds_of_mem_line ha
    have hsecond := table.bounds_of_mem_line hb
    omega

/-- The annotations of a text are not empty and lie inside the text. -/
theorem bounds_of_mem_annotations {a : Annotation} (ha : a ∈ table.annotations text) :
    0 ≤ a.start ∧ a.start < a.stop ∧ a.stop ≤ text.length := by
  rw [annotations_eq, List.mem_flatMap] at ha
  rcases ha with ⟨line, hline, ha⟩
  have hbounds := table.bounds_of_mem_line ha
  have hinside := ((tiles_lines text).bounds hline).2
  omega

end RuleTable

/-- The annotation of a mark in words. -/
theorem Mark.describe_annotate {m : Mark} {line : Text} (hm : m.span.start < m.span.stop)
    (hstop : m.span.stop ≤ line.length) : (m.annotate 0).describe line =
      (Text.ofNat m.span.start ++ '-' :: Text.ofNat m.span.stop) ++ ' ' ::
        (m.category ++ ' ' :: Text.quoted ((line.drop m.span.start).take m.span.length)) := by
  have hslice := Mark.slice_annotate [] [] hm hstop
  rw [List.nil_append, List.append_nil, List.length_nil] at hslice
  have hcontent : (m.annotate 0).content line = (line.drop m.span.start).take m.span.length := hslice
  unfold Annotation.describe
  rw [hcontent]
  simp [Mark.annotate, Text.ofInt]

namespace Listing

variable (table : RuleTable) {text : Text} {before after : List Passage} {line : Passage} {m : Mark}

/-- The record of a mark is that of its annotation. -/
theorem record_eq (hlines : text.lines = before ++ line :: after)
    (hm : m ∈ table.marks (line.text.trimEnd isLineEnd)) :
    record (before.length + 1) line m = (m.annotate line.start).record text := by
  have hwithin := table.within_marks line.text
  have hne := hwithin.separate.nonempty m hm
  have hstop := hwithin.stop_le m hm
  have hmem : line ∈ text.lines := by simp [hlines]
  have hslice := table.slice_of_mem_marks hmem hm
  rcases exists_of_linesFrom_eq hlines with
    ⟨front, body, rest, htext, hfront, -, hbody, hline, hcount⟩
  rw [Nat.zero_add] at hline hstop
  subst hline
  have hinside : m.span.start ≤ body.length := by
    have hend := List.length_take_le 1 rest
    simp only [List.length_append] at hstop
    omega
  have hstart : (m.annotate front.length).start.toNat = front.length + m.span.start := by
    simp only [Mark.annotate]
    omega
  have hlength : ((m.annotate front.length).stop - (m.annotate front.length).start).toNat =
      m.span.stop - m.span.start := by
    simp only [Mark.annotate]
    omega
  unfold Annotation.record
  rw [hstart, hlength, hslice, htext, lineNumber_line rest hbody hinside,
    column_line rest hfront hbody hinside, hcount, Nat.add_sub_cancel' hne.le]
  rfl

/-- The records of a listing are the annotations, each with its place. -/
theorem records_eq (text : Text) :
    records table text = (table.annotations text).map (·.record text) := by
  have hrecords := map_records table (f := id) (g := fun line m => (m.annotate line.start).record text)
    fun before line after hlines m hm => record_eq table hlines hm
  rw [List.map_id] at hrecords
  rw [hrecords, RuleTable.annotations_eq, List.map_flatMap]
  simp only [RuleTable.classify, List.map_map]
  rfl

/-- The places of the records lead back to the annotations. -/
theorem map_subject_records (text : Text) :
    (records table text).map (Record.subject text) = table.annotations text := by
  rw [RuleTable.annotations_eq]
  apply map_records
  intro before line after hlines m _
  simp only [Record.subject, record, lineStart_eq hlines, Mark.annotate]
  congr 1 <;> omega

/-! ## Lines of listings -/

theorem space_notMem_positions (start stop : Nat) :
    ' ' ∉ Text.ofNat start ++ '-' :: Text.ofNat stop := by
  simp [notMem_ofNat (show ' '.isDigit = false by decide)]

/-- The text with a colon in front of its first space. -/
def insertColon : Text → Text
  | [] => []
  | c :: s => if c = ' ' then ':' :: c :: s else c :: insertColon s

theorem insertColon_append {front : Text} (hfront : ' ' ∉ front) (back : Text) :
    insertColon (front ++ ' ' :: back) = front ++ ": " ++ back := by
  induction front with
  | nil => rfl
  | cons c front ih =>
    rcases not_or.mp (List.mem_cons.not.mp hfront) with ⟨hc, hfront⟩
    rw [List.cons_append, insertColon, if_neg (Ne.symm hc), ih hfront]
    rfl

/-- What is printed for the lines of a text, the first of which has the number `number`: the
annotations of each line in words, their positions those in the line. -/
def print (name : Text) (number : Nat) : List AnnotatedLine → Text
  | [] => []
  | l :: rest =>
    (l.annotations.flatMap fun a => Text.endLine (name ++ ":" ++ Text.ofNat number ++ ":" ++
      insertColon ((a.shift (-l.line.start)).describe l.line.text))) ++ print name (number + 1) rest

namespace Record

/-- The line of a record is the annotation in words, its positions those in its line and with a
colon behind them. -/
theorem render_record (name : Text) (number : Nat) {line : Passage} {m : Mark}
    (hm : m.span.start < m.span.stop) (hstop : m.span.stop ≤ line.text.length) :
    (record number line m).render name = name ++ ":" ++ Text.ofNat number ++ ":" ++
      insertColon (((m.annotate line.start).shift (-line.start)).describe line.text) := by
  have hshift : (m.annotate line.start).shift (-line.start) = m.annotate 0 := by
    simp only [Mark.annotate, Annotation.shift, Annotation.mk.injEq]
    exact ⟨by omega, by omega, trivial⟩
  rw [hshift, Mark.describe_annotate hm hstop, insertColon_append (space_notMem_positions _ _)]
  simp [render, record]

end Record

/-- The records of lines are printed as the annotations of the lines are. -/
theorem print_annotations (name : Text) (number : Nat) {lines : List MarkedLine}
    (h : ∀ l ∈ lines, ∀ m ∈ l.marks,
      m.span.start < m.span.stop ∧ m.span.stop ≤ l.line.text.length) :
    ((recordsFrom number lines).flatMap fun r => Text.endLine (r.render name)) =
      print name number (lines.map fun l => ⟨l.line, l.annotations⟩) := by
  induction lines generalizing number with
  | nil => rfl
  | cons l lines ih =>
    rcases List.forall_mem_cons.mp h with ⟨hl, hlines⟩
    rw [recordsFrom, List.flatMap_append, ih _ hlines, List.map_cons, print, List.flatMap_map,
      MarkedLine.annotations, List.flatMap_map]
    congr 1
    apply List.flatMap_congr
    intro m hm
    rw [Record.render_record name number (hl m hm).1 (hl m hm).2]

/-- A listing is what is printed line by line. -/
theorem render_eq_print (table : RuleTable) (name text : Text) :
    render table name text = print name 1 (table.annotateLines text) := by
  apply print_annotations
  intro l hl m hm
  rcases List.mem_map.mp hl with ⟨line, -, rfl⟩
  have hwithin := table.within_marks line.text
  have hstop := hwithin.stop_le m hm
  rw [Nat.zero_add] at hstop
  exact ⟨hwithin.separate.nonempty m hm, hstop⟩

namespace Record

/-- A line of a listing, field by field from its end. -/
theorem render_eq (name : Text) (r : Record) : r.render name =
    (((((name ++ ':' :: Text.ofNat r.line) ++ ':' :: Text.ofNat r.start) ++
      '-' :: Text.ofNat r.stop) ++ [':']) ++ ' ' :: r.category) ++ ' ' :: r.text.quoted := by
  simp [render]

variable {name name' : Text} {r r' : Record}

/-- The name of a category is free of spaces and line feeds. -/
theorem notMem_category {c : Char} (hc : c = ' ' ∨ c = '\n')
    (hr : ∃ category, Category.ofName? r.category = some category) : c ∉ r.category := by
  rcases hr with ⟨category, hcategory⟩
  rw [← Category.name_of_ofName? hcategory]
  rcases hc with rfl | rfl <;> cases category <;> decide

theorem lineFeed_notMem_render (hname : '\n' ∉ name)
    (hr : ∃ category, Category.ofName? r.category = some category) : '\n' ∉ r.render name := by
  have hdigits := notMem_ofNat (show '\n'.isDigit = false by decide)
  rw [render_eq]
  simp [hname, hdigits, notMem_category (Or.inr rfl) hr, lineFeed_notMem_quoted]

/-- The line of a record can be divided in one way only. -/
theorem eq_of_render (hr : ∃ category, Category.ofName? r.category = some category)
    (hr' : ∃ category, Category.ofName? r'.category = some category)
    (h : r.render name = r'.render name') : name = name' ∧ r = r' := by
  have hcolon := notMem_ofNat (show ':'.isDigit = false by decide)
  have hdash := notMem_ofNat (show '-'.isDigit = false by decide)
  rw [render_eq, render_eq] at h
  rcases eq_of_append_quoted h with ⟨h, htext⟩
  rcases eq_of_append_of_notMem (notMem_category (Or.inl rfl) hr)
    (notMem_category (Or.inl rfl) hr') h with ⟨h, hcategory⟩
  rcases eq_of_append_of_notMem (hdash _) (hdash _) (List.append_cancel_right h) with ⟨h, hstop⟩
  rcases eq_of_append_of_notMem (hcolon _) (hcolon _) h with ⟨h, hstart⟩
  rcases eq_of_append_of_notMem (hcolon _) (hcolon _) h with ⟨hname, hline⟩
  refine ⟨hname, ?_⟩
  cases r
  cases r'
  congr
  · exact ofNat_injective hline
  · exact ofNat_injective hstart
  · exact ofNat_injective hstop

end Record

/-- The lines of a listing are those of its records. -/
theorem lines_of_records {name : Text} (hname : '\n' ∉ name) {records : List Record}
    (hrecords : ∀ r ∈ records, ∃ category, Category.ofName? r.category = some category) :
    (lines (records.flatMap fun r => Text.endLine (r.render name))).map (·.text) =
      records.map fun r => Text.endLine (r.render name) := by
  have hentries : ∀ entry ∈ records.map (Record.render name), '\n' ∉ entry := by
    intro entry hentry
    rcases List.mem_map.mp hentry with ⟨r, hr, rfl⟩
    exact Record.lineFeed_notMem_render hname (hrecords r hr)
  have hlines := map_text_linesFrom_endLine hentries 0
  rwa [List.flatMap_map, List.map_map] at hlines

/-- A listing can be read back in one way only. -/
theorem eq_of_lines {name name' : Text} {records records' : List Record}
    (hrecords : ∀ r ∈ records, ∃ category, Category.ofName? r.category = some category)
    (hrecords' : ∀ r ∈ records', ∃ category, Category.ofName? r.category = some category)
    (h : (records.map fun r => Text.endLine (r.render name)) =
      records'.map fun r => Text.endLine (r.render name')) : records = records' := by
  induction records generalizing records' with
  | nil =>
    rw [List.map_nil, eq_comm, List.map_eq_nil_iff] at h
    exact h.symm
  | cons r records ih =>
    cases records' with
    | nil => exact nomatch h
    | cons r' records' =>
      rcases List.forall_mem_cons.mp hrecords with ⟨hr, hrecords⟩
      rcases List.forall_mem_cons.mp hrecords' with ⟨hr', hrecords'⟩
      rw [List.map_cons, List.map_cons, List.cons.injEq] at h
      rw [(Record.eq_of_render hr hr' (List.append_cancel_right h.1)).2, ih hrecords hrecords' h.2]

end Listing

/-! ## The output -/

namespace Format

/-- A listing has one line for each annotation of the text, in order, which shows its number, the
positions in the line, the category and the quoted characters: the annotation in words, once it is
moved back into its line. No other records have these lines, be
it with another name for the text, so the listing says what the records are, and given the text what
the annotations are. -/
theorem render_listing {table : RuleTable} (known : table.Known) {name : Text} (hname : '\n' ∉ name)
    (text : Text) :
    ∃ listing, Format.annotations.render table name text = .ok listing ∧
      listing = Listing.print name 1 (table.annotateLines text) ∧
      listing.lines.map (·.text) = ((table.annotations text).map fun a =>
        let start := text.column a.start.toNat
        name ++ ":" ++ Text.ofNat (text.lineNumber a.start.toNat + 1) ++ ":" ++ Text.ofNat start ++
          "-" ++ Text.ofNat (start + (a.stop - a.start).toNat) ++ ": " ++ a.category ++ " " ++
          (text.slice a.start a.stop).quoted ++ "\n") ∧
      ((table.annotations text).Pairwise fun a b => a.stop ≤ b.start) ∧
      (∀ a ∈ table.annotations text, 0 ≤ a.start ∧ a.start < a.stop ∧ a.stop ≤ text.length) ∧
      ∀ (name' : Text) (records : List Listing.Record), '\n' ∉ name' →
        (∀ r ∈ records, ∃ category, Category.ofName? r.category = some category) →
        (records.flatMap fun r => Text.endLine (r.render name')) = listing →
        records = (table.annotations text).map (·.record text) ∧
          records.map (Listing.Record.subject text) = table.annotations text := by
  have hknown : ∀ r ∈ Listing.records table text,
      ∃ category, Category.ofName? r.category = some category :=
    fun r hr => exists_category_of_mem_records known hr
  have hlines := Listing.lines_of_records hname hknown
  refine ⟨Listing.render table name text, rfl, Listing.render_eq_print table name text, ?_,
    table.annotations_pairwise text, fun a ha => table.bounds_of_mem_annotations text ha, ?_⟩
  · rw [Listing.render, hlines, Listing.records_eq, List.map_map]
    rfl
  · intro name' records hname' hrecords hlisting
    have hlines' := Listing.lines_of_records hname' hrecords
    have hsame : records = Listing.records table text := by
      apply Listing.eq_of_lines hrecords hknown
      rw [← hlines', ← hlines, hlisting, Listing.render]
    rw [hsame, ← Listing.records_eq, Listing.map_subject_records]
    exact ⟨rfl, rfl⟩

/-- A label and a comment that holds both quotes, a backslash and a line separator, in front of a
carriage return; the name looks like the beginning of a line. -/
theorem render_listing_quotes :
    let text : Text := "end:\n x # \"'\\\u2028\r\n"
    RuleTable.Known RuleTable.structural ∧ '\n' ∉ ("a:1:0-1: type 'b'" : Text) ∧
    ∃ listing, Format.annotations.render RuleTable.structural "a:1:0-1: type 'b'" text = .ok listing ∧
      listing.lines.map (·.text) = ["a:1:0-1: type 'b':1:0-3: function-name 'end'\n",
        "a:1:0-1: type 'b':2:3-9: comment '# \"\\'\\\\\\u2028'\n"] ∧
      RuleTable.annotations RuleTable.structural text =
        [⟨0, 3, "function-name"⟩, ⟨8, 14, "comment"⟩] := by
  intro text
  have hname : '\n' ∉ ("a:1:0-1: type 'b'" : Text) := by decide
  rcases render_listing RuleTable.known_structural hname text with
    ⟨listing, hlisting, -, hlines, -, -, hread⟩
  let records : List Listing.Record :=
    [⟨1, 0, 3, "function-name", "end"⟩, ⟨2, 3, 9, "comment", "# \"'\\\u2028"⟩]
  have hrecords : ∀ r ∈ records, ∃ category, Category.ofName? r.category = some category := by
    intro r hr
    simp only [records, List.mem_cons, List.not_mem_nil, or_false] at hr
    rcases hr with rfl | rfl
    · exact ⟨.functionName, rfl⟩
    · exact ⟨.comment, rfl⟩
  have hblock : (records.flatMap fun r => Text.endLine (r.render "a:1:0-1: type 'b'")) = listing := by
    refine Eq.trans ?_ (Except.ok.inj hlisting)
    decide +kernel
  refine ⟨RuleTable.known_structural, hname, listing, hlisting, hlines.trans ?_, ?_⟩
  · decide +kernel
  · rw [← (hread "a:1:0-1: type 'b'" records hname hrecords hblock).2]
    decide +kernel

end Format

end MlogHighlight
