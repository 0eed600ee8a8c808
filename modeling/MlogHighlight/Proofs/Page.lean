import MlogHighlight.Proofs.Agreement
import MlogHighlight.Proofs.Markup
import MlogHighlight.Proofs.Vocabulary.Acceptance

/-!
# Pages can be read back

On a page, the source text is escaped, so it gives characters and never a tag, and the tags around
it are those of the pieces that are highlighted. The name that is shown is inserted as it is. Main
facts:

* `Page.renderCode_eq`, `Page.characters_pieces`: the pieces of the code, and what they join up to;
* `Page.decode_escape`: an escaped text is read back;
* `Page.items_render`, `Page.tags_render`: how a page is read, and which tags it has;
* `Page.reads_iff`: whether the name is read back;
* `Format.render_html`: all of this for a table and a text;
* `Format.render_html_stdin`: the name of the standard input is not read back.
-/

namespace MlogHighlight

open Text

namespace Page

open Markup

/-! ## The pieces of the code -/

/-- The pieces of the code: the runs of characters of one category on a line, and the line ends. -/
def pieces (tokens : List Token) : List (Option Category × Text) :=
  (glyphLines (glyphs tokens)).flatMap fun line => runs line ++ [(none, ['\n'])]

/-- The characters of a piece. -/
def characters (piece : Option Category × Text) : List Glyph := piece.2.map fun c => ⟨piece.1, c⟩

/-- The tag in front of a piece of a category. -/
def openSpan (category : Category) : Text := "<span class=\"" ++ cssClass category ++ "\">"

/-- The tags of a piece: a span if it is highlighted. -/
def spanTags : Option Category × Text → List Text
  | (none, _) => []
  | (some category, _) => [openSpan category, endTag "span"]

theorem renderCode_eq (tokens : List Token) :
    renderCode tokens = (pieces tokens).flatMap renderRun := by
  unfold renderCode pieces
  rw [List.flatMap_assoc]
  apply List.flatMap_congr
  intro line _
  rw [renderLine, endLine, List.flatMap_append]
  rfl

/-- The runs of a line join up to the line. -/
theorem characters_runs (line : List Glyph) : (runs line).flatMap characters = line := by
  fun_induction runs line with
  | case1 => rfl
  | case2 g rest hruns ih =>
    rw [hruns] at ih
    rw [← ih]
    rfl
  | case3 g rest s later hruns ih =>
    rw [hruns] at ih
    rw [← ih]
    rfl
  | case4 g rest category s later hruns hne ih =>
    rw [hruns] at ih
    rw [← ih]
    rfl

/-- Lines join up to the characters if every line is ended, by a line feed that is not highlighted. -/
theorem flatMap_glyphLines {gs : List Glyph} (hplain : ∀ g ∈ gs, g.char = '\n' → g.category = none)
    (hend : ∀ g, gs.getLast? = some g → g.char = '\n') :
    (glyphLines gs).flatMap (fun line => line ++ [⟨none, '\n'⟩]) = gs := by
  induction gs with
  | nil => rfl
  | cons g rest ih =>
    rw [List.forall_mem_cons] at hplain
    have hrest : ∀ g, rest.getLast? = some g → g.char = '\n' := by
      intro last hlast
      refine hend last ?_
      rw [List.getLast?_cons, hlast]
      rfl
    have hjoin := ih hplain.2 hrest
    unfold glyphLines
    by_cases hfeed : g.char = '\n'
    · rcases g with ⟨category, c⟩
      have hcategory : category = none := hplain.1 hfeed
      have hc : c = '\n' := hfeed
      rw [if_pos hfeed, List.flatMap_cons, hjoin, hcategory, hc]
      rfl
    · rw [if_neg hfeed]
      cases hlines : glyphLines rest with
      | nil =>
        -- the last character would be no line feed
        rw [hlines] at hjoin
        have hnil : rest = [] := hjoin.symm
        exact absurd (hend g (by rw [hnil]; rfl)) hfeed
      | cons line lines =>
        rw [hlines] at hjoin
        rw [← hjoin]
        rfl

/-- The pieces join up to the characters of the tokens. -/
theorem characters_pieces {tokens : List Token}
    (hplain : ∀ g ∈ glyphs tokens, g.char = '\n' → g.category = none)
    (hend : ∀ g, (glyphs tokens).getLast? = some g → g.char = '\n') :
    (pieces tokens).flatMap characters = glyphs tokens := by
  rw [pieces, List.flatMap_assoc]
  refine Eq.trans (List.flatMap_congr fun line _ => ?_) (flatMap_glyphLines hplain hend)
  rw [List.flatMap_append, characters_runs]
  rfl

theorem map_char_glyphs (tokens : List Token) :
    (glyphs tokens).map (·.char) = tokens.flatMap (·.text) := by
  unfold glyphs
  rw [List.map_flatMap]
  apply List.flatMap_congr
  intro t _
  rw [List.map_map]
  exact List.map_id _

theorem map_char_pieces (pieces : List (Option Category × Text)) :
    (pieces.flatMap characters).map (·.char) = pieces.flatMap (·.2) := by
  rw [List.map_flatMap]
  apply List.flatMap_congr
  intro piece _
  rw [characters, List.map_map]
  exact List.map_id _

/-! ## Escaped text -/

/-- An escaped character is read back. -/
theorem decode_escape_append {refs : References} (hrefs : refs.Standard) (c : Char) (s : Text) :
    refs.decode (escape c ++ s) = c :: refs.decode s := by
  unfold escape
  split_ifs with hamp hlt hgt
  · rw [hamp]
    exact References.decode_reference (hrefs.amp s)
  · rw [hlt]
    exact References.decode_reference (hrefs.lt s)
  · rw [hgt]
    exact References.decode_reference (hrefs.gt s)
  · exact References.decode_cons hamp s

/-- An escaped text is read back. -/
theorem decode_escape {refs : References} (hrefs : refs.Standard) (s : Text) :
    refs.decode (s.flatMap escape) = s := by
  induction s with
  | nil => rfl
  | cons c s ih => rw [List.flatMap_cons, decode_escape_append hrefs, ih]

/-- No tag begins in an escaped text. -/
theorem notMem_escape (s : Text) : '<' ∉ s.flatMap escape := by
  rw [List.mem_flatMap]
  rintro ⟨c, -, hc⟩
  unfold escape at hc
  split_ifs at hc with hamp hlt hgt
  · simp at hc
  · simp at hc
  · simp at hc
  · exact hlt (List.mem_singleton.mp hc).symm

/-! ## Reading the tags -/

/-- The elements of a page. -/
def elements : List Text := ["title", "h2", "pre", "span"]

theorem title_mem : "title".toList ∈ elements := List.mem_cons_self

theorem heading_mem : "h2".toList ∈ elements := List.mem_cons_of_mem _ List.mem_cons_self

theorem code_mem : "pre".toList ∈ elements := by simp [elements]

theorem span_mem : "span".toList ∈ elements := by simp [elements]

theorem isTag_startTag {element : Text} (h : element ∈ elements) : IsTag (startTag element) := by
  have htag : ∀ element ∈ elements,
      begins element ∧ element.head? ≠ some '!' ∧ '>' ∉ element := by decide
  exact ⟨element, rfl, htag element h⟩

theorem isTag_endTag {element : Text} (h : element ∈ elements) : IsTag (endTag element) := by
  have htag : ∀ element ∈ elements, '>' ∉ '/' :: element := by decide
  exact ⟨'/' :: element, rfl, rfl, by simp, htag element h⟩

theorem isTag_openSpan (category : Category) : IsTag (openSpan category) := by
  refine ⟨"span class=\"" ++ cssClass category ++ "\"", ?_⟩
  cases category <;> decide

/-! ## Reading the code -/

/-- The tags and characters of a piece. -/
def pieceItems : Option Category × Text → List Item
  | (none, s) => (s.flatMap escape).map .char
  | (some category, s) =>
    .tag (openSpan category) :: ((s.flatMap escape).map .char ++ [.tag (endTag "span")])

theorem renderRun_none (s : Text) : renderRun (none, s) = s.flatMap escape := rfl

theorem renderRun_some (category : Category) (s : Text) :
    renderRun (some category, s) = openSpan category ++ (s.flatMap escape ++ endTag "span") := by
  have hrun : renderRun (some category, s) = openSpan category ++ s.flatMap escape ++ "</span>" := rfl
  have hend : ("</span>" : Text) = endTag "span" := by decide
  rw [hrun, hend, List.append_assoc]

/-- A piece is read by itself. -/
theorem items_renderRun_append (piece : Option Category × Text) (rest : Text) :
    items (renderRun piece ++ rest) = pieceItems piece ++ items rest := by
  rcases piece with ⟨_ | category, s⟩
  · rw [renderRun_none, items_append_of_notMem (notMem_escape s)]
    rfl
  · rw [renderRun_some, List.append_assoc, List.append_assoc, (isTag_openSpan category).items_append,
      items_append_of_notMem (notMem_escape s), (isTag_endTag span_mem).items_append]
    simp [pieceItems]

theorem items_renderCode_append (tokens : List Token) (rest : Text) :
    items (renderCode tokens ++ rest) = (pieces tokens).flatMap pieceItems ++ items rest := by
  rw [renderCode_eq]
  exact items_flatMap_append (fun piece _ => items_renderRun_append piece) rest

theorem tags_pieceItems (piece : Option Category × Text) : tags (pieceItems piece) = spanTags piece := by
  rcases piece with ⟨_ | category, s⟩
  · exact tags_chars _
  · rw [pieceItems, tags_cons_tag, tags_append, tags_chars]
    rfl

theorem text_pieceItems (piece : Option Category × Text) :
    text (pieceItems piece) = piece.2.flatMap escape := by
  rcases piece with ⟨_ | category, s⟩
  · exact text_chars _
  · rw [pieceItems, text_cons_tag, text_append, text_chars]
    exact List.append_nil _

/-- The tags of pieces are those of the spans. -/
theorem tags_flatMap_pieceItems (pieces : List (Option Category × Text)) :
    tags (pieces.flatMap pieceItems) = pieces.flatMap spanTags := by
  rw [tags, List.filterMap_flatMap]
  exact List.flatMap_congr fun piece _ => tags_pieceItems piece

theorem endTag_notMem_spanTags (pieces : List (Option Category × Text)) :
    endTag "pre" ∉ pieces.flatMap spanTags := by
  rw [List.mem_flatMap]
  rintro ⟨⟨_ | category, s⟩, -, hmem⟩
  · simp [spanTags] at hmem
  · have hopen : endTag "pre" ≠ openSpan category := by cases category <;> decide +kernel
    have hclose : endTag "pre" ≠ endTag "span" := by decide
    rcases List.mem_cons.mp hmem with heq | hmem
    · exact hopen heq
    · exact hclose (List.mem_singleton.mp hmem)

/-- Without tags and references, pieces mean what they join up to. -/
theorem decode_flatMap_pieceItems {refs : References} (hrefs : refs.Standard)
    (pieces : List (Option Category × Text)) :
    refs.decode (text (pieces.flatMap pieceItems)) = pieces.flatMap (·.2) := by
  have htext : text (pieces.flatMap pieceItems) = (pieces.flatMap (·.2)).flatMap escape := by
    rw [text, List.filterMap_flatMap, List.flatMap_assoc]
    exact List.flatMap_congr fun piece _ => text_pieceItems piece
  rw [htext, decode_escape hrefs]

/-! ## Reading the page -/

/-- The page in front of the title element. -/
def head : Text := opening.flatMap endLine ++ "  "

/-- The page between the title element and the heading. -/
def between : Text := '\n' :: styles.flatMap endLine

/-- The page between the heading and the `pre` element. -/
def gap : Text := "\n\n<div class=\"highlight\">"

/-- The page behind the `pre` element. -/
def foot : Text := "</div>\n</body>\n</html>\n"

/-- A page is that around its name and its code. -/
theorem render_eq (name : Text) (tokens : List Token) : render name tokens =
    head ++ (startTag "title" ++ (name ++ (endTag "title" ++ (between ++ (startTag "h2" ++
      (name ++ (endTag "h2" ++ (gap ++ (startTag "pre" ++ (startTag "span" ++ (endTag "span" ++
        (renderCode tokens ++ (endTag "pre" ++ foot))))))))))))) := by
  have htitle : ("  <title>" : Text) = "  " ++ startTag "title" := by decide
  have htitleEnd : ("</title>" : Text) = endTag "title" := by decide
  have hheading : ("<h2>" : Text) = startTag "h2" := by decide
  have hheadingEnd : ("</h2>" : Text) = endTag "h2" := by decide
  have hcode : ("<div class=\"highlight\"><pre><span></span>" : Text) =
      "<div class=\"highlight\">" ++ (startTag "pre" ++ (startTag "span" ++ endTag "span")) := by decide
  have hgap : gap = ['\n', '\n'] ++ ("<div class=\"highlight\">" : Text) := by decide
  have hfoot : endLine "</pre></div>" ++ (endLine "</body>" ++ endLine "</html>") =
      endTag "pre" ++ foot := by decide
  unfold render head between
  simp only [List.append_assoc, hfoot]
  simp only [endLine, htitle, htitleEnd, hheading, hheadingEnd, hcode, hgap, List.append_assoc,
    List.cons_append, List.nil_append]

/-- What is read in front of the heading, where `name` is read for the name. -/
def headingFront (name : List Item) : List Item :=
  items head ++ .tag (startTag "title") :: (name ++ .tag (endTag "title") :: items between)

/-- What is read in front of the `pre` element. -/
def codeFront (name : List Item) : List Item :=
  headingFront name ++ .tag (startTag "h2") :: (name ++ .tag (endTag "h2") :: items gap)

/-- What is read in the `pre` element. -/
def codeItems (tokens : List Token) : List Item :=
  .tag (startTag "span") :: .tag (endTag "span") :: (pieces tokens).flatMap pieceItems

/-- The tags of a page in front of its code, where `name` is read for the name. -/
def frontTags (name : List Item) : List Text :=
  tags (codeFront name) ++ [startTag "pre", startTag "span", endTag "span"]

/-- The tags of a page behind its code. -/
def backTags : List Text := endTag "pre" :: tags (items foot)

/-- How a page is read: the tags are those of the page around those of the pieces, the title element
and the heading mean a name, and the `pre` element means a text. -/
structure Reads (refs : References) (page name code : Text)
    (pieces : List (Option Category × Text)) : Prop where
  tags : tags (items page) = frontTags [] ++ pieces.flatMap spanTags ++ backTags
  title : content refs "title" (items page) = name
  heading : content refs "h2" (items page) = name
  code : content refs "pre" (items page) = code

theorem closed_head : Closed head := by decide +kernel

/-- No tag around the elements begins one of them. -/
theorem startTag_notMem {element : Text} (h : element ∈ elements) :
    startTag element ∉ tags (items head) ∧ startTag element ∉ tags (items between) ∧
      startTag element ∉ tags (items gap) := by
  have hnone : ∀ source ∈ tags (items head) ++ (tags (items between) ++ tags (items gap)),
      source ∉ elements.map startTag := by decide +kernel
  have hstart : startTag element ∉ tags (items head) ++ (tags (items between) ++ tags (items gap)) :=
    fun hmem => hnone _ hmem (List.mem_map_of_mem h)
  rwa [List.mem_append, List.mem_append, not_or, not_or] at hstart

theorem heading_notMem (name : Text) : startTag "h2" ∉ tags (headingFront (name.map .char)) := by
  rcases startTag_notMem heading_mem with ⟨hhead, hbetween, -⟩
  simp only [headingFront, tags_append, tags_cons_tag, tags_chars, List.nil_append, List.mem_append,
    List.mem_cons, not_or]
  exact ⟨hhead, by decide, by decide, hbetween⟩

theorem code_notMem (name : Text) : startTag "pre" ∉ tags (codeFront (name.map .char)) := by
  rcases startTag_notMem code_mem with ⟨hhead, hbetween, hgap⟩
  simp only [codeFront, headingFront, tags_append, tags_cons_tag, tags_chars, List.nil_append,
    List.mem_append, List.mem_cons, not_or]
  exact ⟨⟨hhead, by decide, by decide, hbetween⟩, by decide, by decide, hgap⟩

theorem codeEnd_notMem (tokens : List Token) : endTag "pre" ∉ tags (codeItems tokens) := by
  rw [codeItems, tags_cons_tag, tags_cons_tag, tags_flatMap_pieceItems, List.mem_cons,
    List.mem_cons, not_or, not_or]
  exact ⟨by decide, by decide, endTag_notMem_spanTags _⟩

section

variable {refs : References} {name : Text} {tokens : List Token}

/-- How a page is read if its name can be read by itself. -/
theorem items_render (h : Separate name) (tokens : List Token) :
    items (render name tokens) = codeFront (items name) ++
      .tag (startTag "pre") :: (codeItems tokens ++ .tag (endTag "pre") :: items foot) := by
  have hbetween : Closed between := by decide +kernel
  have hgap : Closed gap := by decide +kernel
  rw [render_eq, items_append closed_head, (isTag_startTag title_mem).items_append, h _ rfl,
    (isTag_endTag title_mem).items_append, items_append hbetween,
    (isTag_startTag heading_mem).items_append, h _ rfl, (isTag_endTag heading_mem).items_append,
    items_append hgap, (isTag_startTag code_mem).items_append,
    (isTag_startTag span_mem).items_append, (isTag_endTag span_mem).items_append,
    items_renderCode_append, (isTag_endTag code_mem).items_append]
  simp only [codeFront, headingFront, codeItems, List.append_assoc, List.cons_append]

/-- The tags of a page are those of its name, and nothing else makes a difference to them. -/
theorem tags_render (h : Separate name) (tokens : List Token) :
    tags (items (render name tokens)) =
      frontTags (items name) ++ (pieces tokens).flatMap spanTags ++ backTags := by
  rw [items_render h]
  simp only [tags_append, tags_cons_tag, codeItems, tags_flatMap_pieceItems, List.cons_append,
    List.append_assoc, List.nil_append, frontTags, backTags]

/-- A name without tags adds none. -/
theorem frontTags_chars (name : Text) : frontTags (name.map .char) = frontTags [] := by
  simp only [frontTags, codeFront, headingFront, tags_append, tags_cons_tag, tags_chars,
    List.nil_append]

/-- If no tag begins in its name, a page is read with its code as it is. -/
theorem reads_of_plain (hrefs : refs.Standard) (h : Plain name) (tokens : List Token) :
    Reads refs (render name tokens) (refs.decode name) ((pieces tokens).flatMap (·.2))
      (pieces tokens) := by
  have hitems := items_render h.separate tokens
  rw [items_of_plain h] at hitems
  constructor
  · rw [tags_render h.separate, items_of_plain h, frontTags_chars]
  · obtain ⟨back, htitle⟩ : ∃ back, items (render name tokens) = items head ++
        .tag (startTag "title") :: (name.map .char ++ .tag (endTag "title") :: back) := by
      simp only [hitems, codeFront, headingFront, List.append_assoc, List.cons_append]
      exact ⟨_, rfl⟩
    rw [content_eq refs htitle (startTag_notMem title_mem).1 (by simp), text_chars]
  · obtain ⟨back, hheading⟩ : ∃ back, items (render name tokens) = headingFront (name.map .char) ++
        .tag (startTag "h2") :: (name.map .char ++ .tag (endTag "h2") :: back) := by
      simp only [hitems, codeFront, List.append_assoc, List.cons_append]
      exact ⟨_, rfl⟩
    rw [content_eq refs hheading (heading_notMem name) (by simp), text_chars]
  · rw [content_eq refs hitems (code_notMem name) (codeEnd_notMem tokens), codeItems, text_cons_tag,
      text_cons_tag, decode_flatMap_pieceItems hrefs]

/-- A name in which a tag begins is not read back. -/
theorem not_reads (hrefs : refs.Standard) (h : ¬ Plain name) (tokens : List Token) (code : Text)
    (pieces : List (Option Category × Text)) :
    ¬ Reads refs (render name tokens) name code pieces := by
  intro hreads
  rcases exists_of_not_plain h with ⟨front, back, hname, hread⟩
  have hlength : front.length < name.length := by
    rw [hname]
    simp
  obtain ⟨rest, hrest⟩ : ∃ rest, items (render name tokens) =
      items head ++ .tag (startTag "title") :: items (name ++ rest) := by
    rw [render_eq, items_append closed_head, (isTag_startTag title_mem).items_append]
    exact ⟨_, rfl⟩
  obtain ⟨later, hlater⟩ : ∃ later, frontTags [] ++ pieces.flatMap spanTags ++ backTags =
      tags (items head) ++ startTag "title" :: endTag "title" :: later := by
    simp only [frontTags, codeFront, headingFront, tags_append, tags_cons_tag, List.append_assoc,
      List.cons_append, List.nil_append]
    exact ⟨_, rfl⟩
  have htags := hreads.tags
  rw [hrest, hlater, tags_append, List.append_cancel_left_eq, tags_cons_tag] at htags
  have hnext := (List.cons.inj htags).2
  rcases hread rest with ⟨word, hword⟩ | ⟨source, behind, htag⟩
  · -- the tag is never ended, so it is not followed by others
    rw [hword, tags_chars] at hnext
    simp at hnext
  · -- the tag can only be the end of the title, which is too short then
    rw [htag, tags_append, tags_chars, List.nil_append, tags_cons_tag] at hnext
    have hsource := (List.cons.inj hnext).1
    rw [htag, hsource] at hrest
    have htitle := hreads.title
    rw [content_eq refs hrest (startTag_notMem title_mem).1 (by simp), text_chars] at htitle
    have hdecode := References.length_decode_le hrefs front
    rw [htitle] at hdecode
    omega

/-- A page is read as it was meant just if no tag begins in its name and no reference stands in it
for something else. -/
theorem reads_iff (hrefs : refs.Standard) :
    Reads refs (render name tokens) name ((pieces tokens).flatMap (·.2)) (pieces tokens) ↔
      Plain name ∧ refs.decode name = name := by
  constructor
  · intro hreads
    have hplain : Plain name := by
      by_contra hplain
      exact not_reads hrefs hplain tokens _ _ hreads
    refine ⟨hplain, ?_⟩
    rw [← (reads_of_plain hrefs hplain tokens).title, hreads.title]
  · rintro ⟨hplain, hname⟩
    have hreads := reads_of_plain hrefs hplain tokens
    rwa [hname] at hreads

end

end Page

/-! ## The page of a text -/

/-- A text is prepared to end in a line feed. -/
theorem Preparation.getLast?_of_apply_default {s prepared : Text}
    (h : Preparation.apply {} s = .ok prepared) : prepared.getLast? = some '\n' := by
  obtain ⟨stripped, rfl⟩ : ∃ stripped, prepared = Preparation.finish {} stripped :=
    ⟨_, (Except.ok.inj h).symm⟩
  unfold finish
  split
  next => exact List.getLast?_concat
  next hlast => simpa using hlast

namespace RuleTable

variable {table : RuleTable} {text : Text}

theorem lineFeed_notMem_trimEnd {line : Passage} (hline : line ∈ text.lines) :
    '\n' ∉ line.text.trimEnd isLineEnd := by
  rcases mem_linesFrom hline with ⟨front, body, rest, -, -, hrest, hbody, rfl⟩
  have hend : (rest.take 1).all isLineEnd = true := by
    rcases hrest.cases with rfl | ⟨t, rfl⟩
    · rfl
    · rfl
  rw [trimEnd_append_of_all hend]
  exact fun hmem => hbody ((List.rdropWhile_prefix isLineEnd body).subset hmem)

/-- No line end is highlighted. -/
theorem lineFeed_notMem_of_category {p : Piece} (hp : p ∈ table.pieces text)
    (hcategory : p.category.isSome) : '\n' ∉ p.text := by
  have hmarked : p ∈ table.marked text := by
    rw [← filter_pieces]
    exact List.mem_filter.mpr ⟨hp, hcategory⟩
  rcases List.mem_flatMap.mp hmarked with ⟨line, hline, hmem⟩
  rcases List.mem_map.mp hmem with ⟨m, hm, rfl⟩
  rcases eq_trimEnd isLineEnd line.text with ⟨back, htext, -⟩
  have hstop := stop_le_of_mem_marks hm
  have hnonempty := (table.marks_separate _).nonempty m hm
  have hlength : m.span.length ≤ ((line.text.trimEnd isLineEnd).drop m.span.start).length := by
    rw [List.length_drop, Span.length]
    omega
  -- the mark lies in the line without its end
  intro hfeed
  change '\n' ∈ (line.text.drop m.span.start).take m.span.length at hfeed
  rw [htext, List.drop_append_of_le_length (by omega),
    List.take_append_of_le_length hlength] at hfeed
  exact lineFeed_notMem_trimEnd hline (List.mem_of_mem_drop (List.mem_of_mem_take hfeed))

theorem category_of_lineFeed {g : Page.Glyph}
    (hg : g ∈ Page.glyphs ((table.pieces text).map Piece.knownToken)) (hfeed : g.char = '\n') :
    g.category = none := by
  rcases List.mem_flatMap.mp hg with ⟨t, ht, hg⟩
  rcases List.mem_map.mp ht with ⟨p, hp, rfl⟩
  rcases List.mem_map.mp hg with ⟨c, hc, rfl⟩
  have hnone : ¬ p.category.isSome := by
    intro hcategory
    refine lineFeed_notMem_of_category hp hcategory ?_
    rwa [← hfeed]
  rw [Option.not_isSome_iff_eq_none] at hnone
  simp [Piece.knownToken, hnone]

/-- The tokens of a text join up to the text. -/
theorem flatMap_text_knownToken (table : RuleTable) (text : Text) :
    ((table.pieces text).map Piece.knownToken).flatMap (·.text) = text := by
  have hjoin := (table.tiles_pieces text).flatMap_text
  rw [List.flatMap_map] at hjoin ⊢
  exact hjoin

/-- For a text that ends in a line feed, the pieces of the code join up to the characters of the
tokens. -/
theorem characters_pieces (table : RuleTable) (h : text.getLast? = some '\n') :
    (Page.pieces ((table.pieces text).map Piece.knownToken)).flatMap Page.characters =
      Page.glyphs ((table.pieces text).map Piece.knownToken) := by
  have hchars := Page.map_char_glyphs ((table.pieces text).map Piece.knownToken)
  rw [flatMap_text_knownToken] at hchars
  refine Page.characters_pieces (fun g hg => category_of_lineFeed hg) ?_
  intro g hg
  rw [← hchars, List.getLast?_map, hg] at h
  exact Option.some.inj h

end RuleTable

namespace Format

open Markup

/-- What is read on a page. The source text is read back and gives no tags but the spans of its
highlighted pieces, and the pieces join up to the characters of the tokens. The name is inserted as
it is: if it leaves no tag open, its own tags are added, twice. So all is read as it was meant just
if no tag begins in the name and no reference stands in it for something else. -/
theorem render_html {refs : References} (hrefs : refs.Standard) {table : RuleTable}
    (known : table.Known) (text : Text) :
    ∃ prepared tokens, Preparation.apply {} text = .ok prepared ∧
      table.highlight {} text = .ok tokens ∧ tokens.flatMap (·.text) = prepared ∧
      (Page.pieces tokens).flatMap Page.characters = Page.glyphs tokens ∧
      ∀ name : Text, Format.html.render table name text = .ok (Page.render name tokens) ∧
        (Closed name → tags (items (Page.render name tokens)) =
          Page.frontTags (items name) ++ (Page.pieces tokens).flatMap Page.spanTags ++
            Page.backTags) ∧
        (Plain name → Page.Reads refs (Page.render name tokens) (refs.decode name) prepared
          (Page.pieces tokens)) ∧
        (Page.Reads refs (Page.render name tokens) name prepared (Page.pieces tokens) ↔
          Plain name ∧ refs.decode name = name) := by
  rcases RuleTable.exists_apply_default text with ⟨prepared, hprepared⟩
  have hhighlight := RuleTable.highlight_eq known hprepared
  have hjoin := table.flatMap_text_knownToken prepared
  have hpieces := table.characters_pieces (Preparation.getLast?_of_apply_default hprepared)
  refine ⟨prepared, _, hprepared, hhighlight, hjoin, hpieces, ?_⟩
  generalize (table.pieces prepared).map Piece.knownToken = tokens at hhighlight hjoin hpieces
  have hcode : (Page.pieces tokens).flatMap (·.2) = prepared := by
    rw [← Page.map_char_pieces, hpieces, Page.map_char_glyphs, hjoin]
  intro name
  refine ⟨?_, ?_, ?_, ?_⟩
  · rw [Format.render, hhighlight]
    rfl
  · intro hclosed
    exact Page.tags_render hclosed.separate tokens
  · intro hplain
    rw [← hcode]
    exact Page.reads_of_plain hrefs hplain tokens
  · rw [← hcode]
    exact Page.reads_iff hrefs

/-- A comment with a tag in it, in a file with an ordinary name. -/
theorem render_html_comment : References.basic.Standard ∧ RuleTable.Known RuleTable.structural ∧
    ∃ tokens, RuleTable.highlight RuleTable.structural {} "# <b>" = .ok tokens ∧
      Page.Reads References.basic (Page.render "a.mlog" tokens) "a.mlog" "# <b>\n"
        (Page.pieces tokens) := by
  rcases render_html References.standard_basic RuleTable.known_structural "# <b>" with
    ⟨prepared, tokens, hprepared, htokens, -, -, hread⟩
  have hplain : Plain "a.mlog" := plain_of_notMem (by decide)
  have hdecode : References.basic.decode "a.mlog" = "a.mlog" := References.decode_of_notMem (by decide)
  have htext : Preparation.apply {} "# <b>" = .ok ("# <b>\n" : Text) := by decide
  rw [htext] at hprepared
  rw [Except.ok.inj hprepared]
  exact ⟨References.standard_basic, RuleTable.known_structural, tokens, htokens,
    (hread "a.mlog").2.2.2.mpr ⟨hplain, hdecode⟩⟩

/-- The name of the standard input is a tag, so no page that is made from it is read as it was
meant. -/
theorem render_html_stdin : References.basic.Standard ∧ RuleTable.Known RuleTable.structural ∧
    ∃ page, Format.html.render RuleTable.structural "<stdin>" "" = .ok page ∧
      content References.basic "title" (items page) = [] ∧
      ∀ prepared pieces, ¬ Page.Reads References.basic page "<stdin>" prepared pieces := by
  have hhighlight : RuleTable.highlight RuleTable.structural {} "" = .ok [⟨0, none, ['\n']⟩] := by
    decide
  have hrender : Format.html.render RuleTable.structural "<stdin>" "" =
      .ok (Page.render "<stdin>" [⟨0, none, ['\n']⟩]) := by
    rw [Format.render, hhighlight]
    rfl
  have hplain : ¬ Plain "<stdin>" := by
    intro hplain
    have hbegins : begins "stdin>" = false := hplain [] "stdin>" rfl
    exact absurd hbegins (by decide)
  refine ⟨References.standard_basic, RuleTable.known_structural, _, hrender, by decide +kernel, ?_⟩
  exact Page.not_reads References.standard_basic hplain _

end Format

end MlogHighlight
