import MlogHighlight.Output
import MlogHighlight.Proofs.Locality
import MlogHighlight.Proofs.Preparation

/-!
# The output formats agree

A listing shows the text as it is given, the other formats show the prepared text. They show the
same: line feeds at the ends of a text are not marked and take no part in the marks of other lines.
Main facts:

* `RuleTable.marked_trim`: the marked pieces of the stripped text are those of the text, moved;
* `Listing.records_marked`: the records of a listing are the marked pieces of the text;
* `Format.render_agree`: the records of a listing are the tokens of the other formats.
-/

namespace MlogHighlight

open Text

/-! ## Marked pieces -/

/-- The piece at a place further on. -/
def Piece.shift (p : Piece) (distance : Nat) : Piece := { p with start := p.start + distance }

namespace RuleTable

variable (table : RuleTable)

/-- The pieces of a line that have a category. -/
def lineMarked (line : Passage) : List Piece :=
  (table.marks (line.text.trimEnd isLineEnd)).map fun m =>
    ⟨line.start + m.span.start, some m.category,
      (line.text.drop m.span.start).take m.span.length⟩

/-- The pieces of a text that have a category. -/
def marked (text : Text) : List Piece := text.lines.flatMap table.lineMarked

theorem filter_pieces (text : Text) :
    (table.pieces text).filter (·.category.isSome) = table.marked text := by
  rw [pieces_eq, List.filter_flatMap]
  apply List.flatMap_congr
  intro line _
  exact Piece.marked_cut (table.within_marks line.text)

theorem lineMarked_shift (line : Passage) (distance : Nat) :
    table.lineMarked (line.shift distance) = (table.lineMarked line).map (·.shift distance) := by
  unfold lineMarked
  rw [List.map_map]
  apply List.map_congr_left
  intro m _
  simp only [Function.comp_apply, Passage.shift, Piece.shift, Nat.add_right_comm]

theorem marked_append {front : Text} (hfront : EndsLine front) (back : Text) :
    table.marked (front ++ back) =
      table.marked front ++ (table.marked back).map (·.shift front.length) := by
  unfold marked
  rw [lines_append hfront, List.flatMap_append, List.flatMap_map, List.map_flatMap]
  congr 1
  apply List.flatMap_congr
  intro line _
  exact table.lineMarked_shift line front.length

/-! ## Line feeds -/

/-- An empty line has no marks. -/
theorem marks_nil : table.marks [] = [] := by
  rw [List.eq_nil_iff_forall_not_mem]
  intro m hm
  have hnonempty := (table.marks_separate []).nonempty m hm
  have hstop := stop_le_of_mem_marks hm
  rw [List.length_nil] at hstop
  omega

/-- A line feed at the end of a line is not marked and changes no marks. -/
theorem lineMarked_lineFeed (pos : Nat) (body : Text) :
    table.lineMarked ⟨pos, body ++ ['\n']⟩ = table.lineMarked ⟨pos, body⟩ := by
  have htrim : (body ++ ['\n']).trimEnd isLineEnd = body.trimEnd isLineEnd :=
    trimEnd_concat_of_pos (by decide) body
  unfold lineMarked
  rw [htrim]
  apply List.map_congr_left
  intro m hm
  -- the mark lies in the line without its end
  have hbody := (table.within_marks body).stop_le m hm
  have hnonempty := (table.within_marks body).separate.nonempty m hm
  rw [Nat.zero_add] at hbody
  have hlength : m.span.length ≤ (body.drop m.span.start).length := by
    rw [List.length_drop, Span.length]
    omega
  congr 1
  rw [List.drop_append_of_le_length (by omega), List.take_append_of_le_length hlength]

/-- A line feed at the end of a text is not marked and changes no marks. -/
theorem marked_lineFeed (text : Text) : table.marked (text ++ ['\n']) = table.marked text := by
  induction text using line_induction with
  | nil =>
    have hline := table.lineMarked_lineFeed 0 []
    rw [List.nil_append] at hline
    have hempty : table.lineMarked ⟨0, []⟩ = [] := by
      have htrim : Text.trimEnd isLineEnd [] = [] := rfl
      rw [lineMarked, htrim, marks_nil, List.map_nil]
    have hlines : lines ['\n'] = [⟨0, ['\n']⟩] := rfl
    rw [List.nil_append, marked, hlines, List.flatMap_singleton, hline, hempty]
    rfl
  | last body hne hbody =>
    unfold marked lines
    rw [linesFrom_line hbody, linesFrom_last hne hbody]
    simp only [List.flatMap_cons, lineMarked_lineFeed]
    rfl
  | line body rest hbody ih =>
    have hsplit : ∀ s : Text, body ++ '\n' :: s = (body ++ ['\n']) ++ s := by
      intro s
      rw [List.append_assoc, List.singleton_append]
    have hfront : EndsLine (body ++ ['\n']) := endsLine_concat body
    rw [hsplit rest, List.append_assoc, marked_append _ hfront, marked_append _ hfront, ih]

theorem marked_append_lineFeeds (text : Text) (n : Nat) :
    table.marked (text ++ List.replicate n '\n') = table.marked text := by
  induction n with
  | zero => rw [List.replicate_zero, List.append_nil]
  | succ n ih => rw [List.replicate_succ', ← List.append_assoc, marked_lineFeed, ih]

theorem endsLine_lineFeeds (n : Nat) : EndsLine (List.replicate n '\n') := by
  cases n with
  | zero => exact endsLine_nil
  | succ n => exact Or.inr (by rw [List.replicate_succ', List.getLast?_concat])

/-- The marked pieces of a text that is stripped of the line feeds at both ends, and ended by one. -/
theorem marked_trim (text : Text) :
    table.marked text = (table.marked (text.trim (· == '\n') ++ ['\n'])).map
      (·.shift (text.takeWhile (· == '\n')).length) := by
  have hfront := eq_replicate_lineFeed (all_takeWhile (· == '\n') text)
  rcases eq_trim (· == '\n') text with ⟨back, htext, hback⟩
  have hends : EndsLine (text.takeWhile (· == '\n')) := by
    rw [hfront]
    exact endsLine_lineFeeds _
  have hnone : table.marked (text.takeWhile (· == '\n')) = [] := by
    have hfeeds := table.marked_append_lineFeeds [] (text.takeWhile (· == '\n')).length
    rw [List.nil_append, ← hfront] at hfeeds
    exact hfeeds
  calc table.marked text
      = table.marked (text.takeWhile (· == '\n') ++ (text.trim (· == '\n') ++ back)) := by
        rw [← List.append_assoc, ← htext]
    _ = (table.marked (text.trim (· == '\n') ++ back)).map
          (·.shift (text.takeWhile (· == '\n')).length) := by
        rw [table.marked_append hends, hnone, List.nil_append]
    _ = (table.marked (text.trim (· == '\n') ++ ['\n'])).map
          (·.shift (text.takeWhile (· == '\n')).length) := by
        rw [eq_replicate_lineFeed hback, marked_append_lineFeeds, marked_lineFeed]

end RuleTable

/-! ## Records -/

/-- The position where the line with the number begins; lines count from one. -/
def Text.lineStart (text : Text) (number : Nat) : Nat :=
  ((text.lines.take (number - 1)).map (·.text.length)).sum

/-- A line begins behind the lines before it. -/
theorem Text.lineStart_eq {text : Text} {before after : List Passage} {line : Passage}
    (h : text.lines = before ++ line :: after) : text.lineStart (before.length + 1) = line.start := by
  have hstart := (tiles_lines text).start_eq h
  rw [lineStart, Nat.add_sub_cancel, h, List.take_left, hstart, Nat.zero_add]

namespace Listing

variable (table : RuleTable)

/-- The piece of a text that a record is about. -/
def Record.piece (text : Text) (r : Record) : Piece :=
  ⟨text.lineStart r.line + r.start, some r.category, r.text⟩

variable {table} in
/-- The record of a mark is known without what stands behind the marked part of the line. -/
theorem record_append (number pos : Nat) (back : Text) {line : Text} {m : Mark}
    (hm : m ∈ table.marks line) :
    record number ⟨pos, line ++ back⟩ m =
      ⟨number, m.span.start, m.span.stop, m.category, m.span.content line⟩ := by
  have hne := (table.marks_separate line).nonempty m hm
  have hstop := RuleTable.stop_le_of_mem_marks hm
  have hlength : m.span.stop - m.span.start ≤ (line.drop m.span.start).length := by
    rw [List.length_drop]
    omega
  rw [record, Span.content, Span.length, List.drop_append_of_le_length (by omega),
    List.take_append_of_le_length hlength, List.drop_take]

variable {table} in
theorem record_eq_content (number pos : Nat) {line : Text} {m : Mark} (hm : m ∈ table.marks line) :
    record number ⟨pos, line⟩ m =
      ⟨number, m.span.start, m.span.stop, m.category, m.span.content line⟩ := by
  have hrecord := record_append number pos [] hm
  rwa [List.append_nil] at hrecord

/-- What holds of each record, given its line and the lines before it, holds of all records. -/
theorem map_recordsFrom {β : Type} {f : Record → β} {g : Passage → Mark → β} {text : Text}
    (h : ∀ before line after, text.lines = before ++ line :: after →
      ∀ m ∈ table.marks (line.text.trimEnd isLineEnd), f (record (before.length + 1) line m) = g line m)
    {before after : List Passage} (hlines : text.lines = before ++ after) :
    (recordsFrom (before.length + 1) (after.map fun line =>
      ⟨line, table.marks (line.text.trimEnd isLineEnd)⟩)).map f =
      after.flatMap fun line => (table.marks (line.text.trimEnd isLineEnd)).map (g line) := by
  induction after generalizing before with
  | nil => rfl
  | cons line after ih =>
    have hbehind : text.lines = (before ++ [line]) ++ after := by
      rw [hlines, List.append_assoc, List.singleton_append]
    have hrest := ih hbehind
    rw [List.length_append, List.length_singleton] at hrest
    rw [List.map_cons, recordsFrom, List.map_append, hrest, List.flatMap_cons, List.map_map]
    congr 1
    exact List.map_congr_left fun m hm => h before line after hlines m hm

theorem map_records {β : Type} {f : Record → β} {g : Passage → Mark → β} {text : Text}
    (h : ∀ before line after, text.lines = before ++ line :: after →
      ∀ m ∈ table.marks (line.text.trimEnd isLineEnd),
        f (record (before.length + 1) line m) = g line m) :
    (records table text).map f =
      text.lines.flatMap fun line => (table.marks (line.text.trimEnd isLineEnd)).map (g line) :=
  map_recordsFrom table h (List.nil_append text.lines).symm

/-- The records of a listing are the marked pieces of the text. -/
theorem records_marked (text : Text) :
    (records table text).map (Record.piece text) = table.marked text := by
  apply map_records
  intro before line after hlines m _
  rw [Record.piece, record, lineStart_eq hlines]

end Listing

/-! ## Formats -/

namespace Format

variable {table : RuleTable} {text : Text}

/-- The category of a record exists. -/
theorem exists_category_of_mem_records (known : table.Known) {r : Listing.Record}
    (hr : r ∈ Listing.records table text) :
    ∃ category, Category.ofName? r.category = some category := by
  have hpiece := List.mem_map_of_mem (f := Listing.Record.piece text) hr
  rw [Listing.records_marked, ← RuleTable.filter_pieces, List.mem_filter] at hpiece
  exact known.exists_category hpiece.1 rfl

/-- A record and a token show the same: the token is of the category of the record and the kind that
belongs to it, has the characters of the record, and starts where the record does in the text
without its first `leading` characters. -/
def Shows (text : Text) (leading : Nat) (r : Listing.Record) (t : Token) : Prop :=
  t.category.map Category.name = some r.category ∧
    some t.kind = Category.kinds.lookup r.category ∧ t.text = r.text ∧
    text.lineStart r.line + r.start = t.start + leading

/-- The records of a text show the same as the tokens of the prepared text. -/
theorem forall₂_shows (known : table.Known) (text : Text) :
    List.Forall₂ (Shows text (text.takeWhile (· == '\n')).length) (Listing.records table text)
      ((table.marked (text.trim (· == '\n') ++ ['\n'])).map Piece.knownToken) := by
  have hpieces := Listing.records_marked table text
  rw [table.marked_trim, ← List.forall₂_eq_eq_eq, List.forall₂_map_left_iff,
    List.forall₂_map_right_iff] at hpieces
  have hknown : ∀ r ∈ Listing.records table text,
      ∃ category, Category.ofName? r.category = some category :=
    fun r hr => exists_category_of_mem_records known hr
  rw [List.forall₂_map_right_iff]
  refine List.Forall₂.imp ?_ ((List.forall₂_and_left _ _).mpr ⟨hknown, hpieces⟩)
  rintro r p ⟨⟨category, hcategory⟩, hpiece⟩
  have hname : p.category = some r.category := (congrArg Piece.category hpiece).symm
  have htoken : p.knownToken.category = some category := by
    rw [Piece.knownToken, hname, Option.bind_some, hcategory]
  refine ⟨?_, ?_, ?_, ?_⟩
  · rw [htoken, Option.map_some, Category.name_of_ofName? hcategory]
  · rw [Token.some_kind (by rw [htoken]; rfl), htoken, Category.lookup_kinds, hcategory]
  · exact (congrArg Piece.text hpiece).symm
  · exact congrArg Piece.start hpiece

/-- The output formats agree on the classification. For a text with unified line ends and no byte
order mark, the listing consists of records, and the other formats show one and the same stream of
tokens; the records and the tokens that are not plain are one for one of the same category and have
the same characters. A token starts behind the tokens before it, and a record as much further on as
the text has line feeds in front. The plain tokens are those of a kind of their own. -/
theorem render_agree (table : RuleTable) (known : table.Known) (text : Text) (hreturn : '\r' ∉ text)
    (hmark : text.head? ≠ some '\ufeff') :
    ∃ tokens, table.highlight {} text = .ok tokens ∧
      (∀ name : Text,
        Format.annotations.render table name text =
          .ok ((Listing.records table text).flatMap fun r => (r.render name).endLine) ∧
        Format.terminal.render table name text = .ok (Terminal.render tokens) ∧
        Format.html.render table name text = .ok (Page.render name tokens)) ∧
      (∀ before t after, tokens = before ++ t :: after →
        t.start = (before.map (·.text.length)).sum) ∧
      List.Forall₂ (Shows text (text.takeWhile (· == '\n')).length) (Listing.records table text)
        (tokens.filter (·.category.isSome)) ∧
      (∀ t ∈ tokens, t.kind = "Token.Text" ↔ t.category = none) := by
  have hhighlight := RuleTable.highlight_eq known (Preparation.apply_default hreturn hmark)
  refine ⟨_, hhighlight, ?_, ?_, ?_, ?_⟩
  · intro name
    refine ⟨rfl, ?_, ?_⟩
    · rw [Format.render, hhighlight]
      rfl
    · rw [Format.render, hhighlight]
      rfl
  · intro before t after hsplit
    have htiles : Tiles 0 (((table.pieces (text.trim (· == '\n') ++ ['\n'])).map
        Piece.knownToken).map Token.passage) (text.trim (· == '\n') ++ ['\n']) := by
      rw [List.map_map]
      exact table.tiles_pieces _
    rw [hsplit, List.map_append, List.map_cons] at htiles
    have hstart := htiles.start_eq rfl
    rw [List.map_map, Nat.zero_add] at hstart
    exact hstart
  · rw [RuleTable.filter_map_knownToken known, RuleTable.filter_pieces]
    exact forall₂_shows known text
  · exact fun t _ => Token.kind_eq_text_iff

/-- A label and a comment behind two empty lines; the comment is not ended. -/
theorem render_agree_blank_lines :
    RuleTable.Known RuleTable.structural ∧ '\r' ∉ ("\n\nend:\n# x" : Text) ∧
      ("\n\nend:\n# x" : Text).head? ≠ some '\ufeff' ∧
    ∃ tokens, RuleTable.highlight RuleTable.structural {} "\n\nend:\n# x" = .ok tokens ∧
      List.Forall₂ (Shows "\n\nend:\n# x" 2)
        [⟨3, 0, 3, "function-name", "end"⟩, ⟨4, 0, 3, "comment", "# x"⟩]
        (tokens.filter (·.category.isSome)) := by
  have hreturn : '\r' ∉ ("\n\nend:\n# x" : Text) := by decide
  have hmark : ("\n\nend:\n# x" : Text).head? ≠ some '\ufeff' := by decide
  rcases render_agree RuleTable.structural RuleTable.known_structural "\n\nend:\n# x" hreturn hmark
    with ⟨tokens, htokens, -, -, hshows, -⟩
  have hrecords : Listing.records RuleTable.structural "\n\nend:\n# x" =
      [⟨3, 0, 3, "function-name", "end"⟩, ⟨4, 0, 3, "comment", "# x"⟩] := by decide
  rw [hrecords] at hshows
  exact ⟨RuleTable.known_structural, hreturn, hmark, tokens, htokens, hshows⟩

end Format

end MlogHighlight
