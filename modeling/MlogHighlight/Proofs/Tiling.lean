import Mathlib.Algebra.GroupWithZero.Nat
import Mathlib.Data.List.Chain
import MlogHighlight.Proofs.Claiming
import MlogHighlight.Proofs.Line
import MlogHighlight.Proofs.Mapping
import MlogHighlight.Proofs.TokenKind

/-!
# Tokens tile their text

Every line is cut at the ends of its marks. Since the marks of a line are in order, do not overlap
and lie inside the line, no character is lost and none is taken twice. Main facts:

* `tiles_lines`: the lines of a text tile the text;
* `Piece.tiles_cut`: the pieces of a line tile the line;
* `RuleTable.tiles_pieces`: the pieces of a text tile the text;
* `RuleTable.marked_pieces`: the pieces with a category are the annotations of the text;
* `RuleTable.tokens_tile`: what this says of tokens.
-/

namespace MlogHighlight

open Text

/-! ## Tilings -/

/-- The passages are not empty, follow each other from the position on, and join up to the text. -/
inductive Tiles : Nat → List Passage → Text → Prop where
  | nil (pos : Nat) : Tiles pos [] []
  | cons (pos : Nat) (word : Text) (passages : List Passage) (rest : Text) : word ≠ [] →
      Tiles (pos + word.length) passages rest → Tiles pos (⟨pos, word⟩ :: passages) (word ++ rest)

namespace Tiles

variable {pos : Nat} {passages passages' : List Passage} {s t : Text}

theorem singleton (pos : Nat) {word : Text} (hne : word ≠ []) : Tiles pos [⟨pos, word⟩] word := by
  have h := Tiles.cons pos word [] [] hne (Tiles.nil _)
  rwa [List.append_nil] at h

theorem append (h : Tiles pos passages s) (h' : Tiles (pos + s.length) passages' t) :
    Tiles pos (passages ++ passages') (s ++ t) := by
  induction h with
  | nil pos => exact h'
  | cons pos word passages rest hne _ ih =>
    rw [List.cons_append, List.append_assoc]
    refine Tiles.cons pos word _ _ hne (ih ?_)
    rw [List.length_append] at h'
    rwa [Nat.add_assoc]

/-- Tilings of two texts are what a tiling falls into. -/
theorem of_append (h : Tiles pos (passages ++ passages') s) :
    ∃ front back, s = front ++ back ∧ Tiles pos passages front ∧
      Tiles (pos + front.length) passages' back := by
  induction passages generalizing pos s with
  | nil => exact ⟨[], s, rfl, Tiles.nil pos, h⟩
  | cons p passages ih =>
    cases h with
    | cons _ word _ rest hne hrest =>
      rcases ih hrest with ⟨front, back, rfl, hfront, hback⟩
      refine ⟨word ++ front, back, (List.append_assoc ..).symm, Tiles.cons pos word _ _ hne hfront, ?_⟩
      rwa [List.length_append, ← Nat.add_assoc]

theorem ne_nil (h : Tiles pos passages s) {p : Passage} (hp : p ∈ passages) : p.text ≠ [] := by
  induction h with
  | nil => simp at hp
  | cons pos word passages rest hne _ ih =>
    rcases List.mem_cons.mp hp with rfl | hp
    · exact hne
    · exact ih hp

/-- The passages join up to the text. -/
theorem flatMap_text (h : Tiles pos passages s) : passages.flatMap (·.text) = s := by
  induction h with
  | nil => rfl
  | cons pos word passages rest _ _ ih => rw [List.flatMap_cons, ih]

/-- A passage starts behind the passages before it. -/
theorem start_eq (h : Tiles pos passages s) {before after : List Passage} {p : Passage}
    (hp : passages = before ++ p :: after) : p.start = pos + (before.map (·.text.length)).sum := by
  induction h generalizing before with
  | nil => simp at hp
  | cons pos word passages rest _ _ ih =>
    cases before with
    | nil =>
      simp only [List.nil_append, List.cons.injEq] at hp
      simp [← hp.1]
    | cons first before =>
      simp only [List.cons_append, List.cons.injEq] at hp
      rw [ih hp.2, List.map_cons, List.sum_cons, ← hp.1, Nat.add_assoc]

/-- What is in front of a passage are the passages before it. -/
theorem take_start (h : Tiles pos passages s) {before after : List Passage} {p : Passage}
    (hp : passages = before ++ p :: after) : s.take (p.start - pos) = before.flatMap (·.text) := by
  have hlength : p.start - pos = (before.flatMap (·.text)).length := by
    rw [h.start_eq hp, List.length_flatMap]
    omega
  rw [← h.flatMap_text, hp, List.flatMap_append, hlength, List.take_left]

/-- A passage stands in the text. -/
theorem exists_append (h : Tiles pos passages s) {p : Passage} (hp : p ∈ passages) :
    ∃ front back, s = front ++ p.text ++ back := by
  induction h with
  | nil => simp at hp
  | cons pos word passages rest _ _ ih =>
    rcases List.mem_cons.mp hp with rfl | hp
    · exact ⟨[], rest, rfl⟩
    · rcases ih hp with ⟨front, back, hrest⟩
      refine ⟨word ++ front, back, ?_⟩
      rw [hrest]
      simp only [List.append_assoc]

/-- The last passage ends like the text. -/
theorem getLast?_text (h : Tiles pos passages s) {p : Passage} (hp : passages.getLast? = some p) :
    p.text.getLast? = s.getLast? := by
  induction h with
  | nil => simp at hp
  | cons pos word passages rest hne hrest ih =>
    cases passages with
    | nil =>
      cases hrest
      rw [List.getLast?_singleton, Option.some.injEq] at hp
      rw [← hp, List.append_nil]
    | cons first passages =>
      rw [List.getLast?_cons_cons] at hp
      have hlast : rest ≠ [] := by
        rintro rfl
        have hjoin := hrest.flatMap_text
        rw [List.flatMap_cons, List.append_eq_nil_iff] at hjoin
        exact hrest.ne_nil (List.mem_cons_self ..) hjoin.1
      rw [ih hp, List.getLast?_append_of_ne_nil _ hlast]

/-- The passages lie inside the text. -/
theorem bounds (h : Tiles pos passages s) {p : Passage} (hp : p ∈ passages) :
    pos ≤ p.start ∧ p.stop ≤ pos + s.length := by
  induction h with
  | nil => simp at hp
  | cons pos word passages rest _ _ ih =>
    rw [List.length_append]
    rcases List.mem_cons.mp hp with rfl | hp
    · simp only [Passage.stop]
      omega
    · have hbounds := ih hp
      omega

/-- The passages are in order. -/
theorem pairwise (h : Tiles pos passages s) : passages.Pairwise fun p q => p.stop ≤ q.start := by
  induction h with
  | nil => exact List.Pairwise.nil
  | cons pos word passages rest _ hrest ih =>
    refine List.pairwise_cons.mpr ⟨?_, ih⟩
    intro q hq
    exact (hrest.bounds hq).1

/-- Tilings of all passages tile the text. -/
theorem flatMap {f : Passage → List Passage} (h : Tiles pos passages s)
    (hf : ∀ p ∈ passages, Tiles p.start (f p) p.text) : Tiles pos (passages.flatMap f) s := by
  induction h with
  | nil pos => exact Tiles.nil pos
  | cons pos word passages rest _ _ ih =>
    rcases List.forall_mem_cons.mp hf with ⟨hword, hrest⟩
    exact hword.append (ih hrest)

end Tiles

/-- The lines tile their text. -/
theorem tiles_linesFrom (pos : Nat) (s : Text) : Tiles pos (linesFrom pos s) s := by
  induction s using line_induction generalizing pos with
  | nil => exact Tiles.nil pos
  | last body hne hbody =>
    rw [linesFrom_last hne hbody]
    exact Tiles.singleton pos hne
  | line body rest hbody ih =>
    have hline := Tiles.cons pos (body ++ ['\n']) _ rest (by simp) (ih _)
    rw [linesFrom_line hbody]
    simpa [Nat.add_assoc] using hline

theorem tiles_lines (s : Text) : Tiles 0 (lines s) s := tiles_linesFrom 0 s

/-! ## The pieces of a line -/

/-- The marks are in order and lie inside the `length` characters from `pos` on. -/
structure Mark.Within (pos length : Nat) (marks : List Mark) : Prop where
  separate : Mark.Separate marks
  start_le : ∀ m ∈ marks, pos ≤ m.span.start
  stop_le : ∀ m ∈ marks, m.span.stop ≤ pos + length

namespace Piece

variable {lineStart pos : Nat} {s : Text} {m : Mark} {marks : List Mark}

/-- The piece without its category. -/
def passage (p : Piece) : Passage := ⟨p.start, p.text⟩

/-- If two pieces are plain, the first of them ends its line. -/
def Parted (p q : Piece) : Prop :=
  p.category = none → q.category = none → p.text.getLast? = some '\n'

theorem tiles_plain (pos : Nat) (s : Text) : Tiles pos ((plain pos s).map passage) s := by
  unfold plain
  cases s with
  | nil => exact Tiles.nil pos
  | cons c s => exact Tiles.singleton pos (List.cons_ne_nil c s)

/-- What a mark leaves over for the marks behind it. -/
theorem within_tail (h : Mark.Within pos s.length (m :: marks)) :
    Mark.Within m.span.stop ((s.drop (m.span.start - pos)).drop m.span.length).length marks := by
  rcases Mark.separate_cons.mp h.separate with ⟨hm, hbehind, hmarks⟩
  have hstart := h.start_le m (List.mem_cons_self ..)
  have hstop := h.stop_le m (List.mem_cons_self ..)
  constructor
  · exact hmarks
  · exact hbehind
  · intro k hk
    have hle := h.stop_le k (List.mem_cons_of_mem _ hk)
    simp only [List.length_drop, Span.length]
    omega

/-- The pieces of what is left of a line tile it. -/
theorem tiles_cut (h : Mark.Within pos s.length marks) :
    Tiles (lineStart + pos) ((cut lineStart pos s marks).map passage) s := by
  induction marks generalizing pos s with
  | nil => exact tiles_plain _ s
  | cons m marks ih =>
    rcases Mark.separate_cons.mp h.separate with ⟨hm, -, -⟩
    have hstart := h.start_le m (List.mem_cons_self ..)
    have hstop := h.stop_le m (List.mem_cons_self ..)
    have hgap : (s.take (m.span.start - pos)).length = m.span.start - pos := by
      rw [List.length_take]
      omega
    have hword : ((s.drop (m.span.start - pos)).take m.span.length).length = m.span.length := by
      simp only [List.length_take, List.length_drop, Span.length]
      omega
    have hne : (s.drop (m.span.start - pos)).take m.span.length ≠ [] := by
      apply List.ne_nil_of_length_pos
      rw [hword, Span.length]
      omega
    -- the mark and what is left over behind it, then the gap in front of them
    have hbehind : lineStart + m.span.start + m.span.length = lineStart + m.span.stop := by
      unfold Span.length
      omega
    have hrest := Tiles.cons (lineStart + m.span.start) _ _ _ hne
      (by rw [hword, hbehind]; exact ih (within_tail h))
    rw [List.take_append_drop] at hrest
    have hposition : lineStart + m.span.start =
        lineStart + pos + (s.take (m.span.start - pos)).length := by
      rw [hgap]
      omega
    rw [hposition] at hrest
    have hall := (tiles_plain (lineStart + pos) (s.take (m.span.start - pos))).append hrest
    rw [List.take_append_drop, ← hposition] at hall
    rw [cut, List.map_append, List.map_cons]
    exact hall

/-- Between two plain pieces of a line there is a mark. -/
theorem parted_cut (lineStart pos : Nat) (s : Text) (marks : List Mark) :
    (cut lineStart pos s marks).IsChain Parted := by
  have hplain : ∀ start word, (plain start word).IsChain Parted := by
    intro start word
    unfold plain
    split
    · exact List.IsChain.nil
    · exact List.IsChain.singleton _
  induction marks generalizing pos s with
  | nil => exact hplain _ _
  | cons m marks ih =>
    unfold cut
    refine (hplain _ _).append (List.isChain_cons.mpr ⟨?_, ih _ _⟩) ?_
    · intro q _ hm
      simp at hm
    · intro p _ q hq _ hnone
      simp only [List.head?_cons, Option.mem_some_iff] at hq
      rw [← hq] at hnone
      simp at hnone

/-- The pieces of a line that are not plain are those of its marks. -/
theorem marked_cut (h : Mark.Within pos s.length marks) :
    (cut lineStart pos s marks).filter (·.category.isSome) = marks.map fun m =>
      ⟨lineStart + m.span.start, some m.category,
        (s.drop (m.span.start - pos)).take m.span.length⟩ := by
  have hplain : ∀ start word, (plain start word).filter (·.category.isSome) = [] := by
    intro start word
    unfold plain
    split <;> rfl
  induction marks generalizing pos s with
  | nil => exact hplain _ _
  | cons m marks ih =>
    rcases Mark.separate_cons.mp h.separate with ⟨hm, hbehind, -⟩
    have hstart := h.start_le m (List.mem_cons_self ..)
    rw [cut, List.filter_append, hplain, List.nil_append, List.filter_cons_of_pos rfl,
      ih (within_tail h), List.map_cons]
    congr 1
    apply List.map_congr_left
    intro k hk
    -- what is behind the mark, taken from the text in front of it
    have hlater := hbehind k hk
    have hdrop : m.span.start - pos + (m.span.length + (k.span.start - m.span.stop)) =
        k.span.start - pos := by
      unfold Span.length
      omega
    rw [List.drop_drop, List.drop_drop, hdrop]

end Piece

/-! ## The pieces of a text -/

theorem Text.length_trimEnd_le (p : Char → Bool) (s : Text) : (s.trimEnd p).length ≤ s.length := by
  have hle : (s.reverse.dropWhile p).length ≤ s.reverse.length :=
    (List.dropWhile_sublist p).length_le
  rw [List.length_reverse] at hle
  rw [trimEnd, List.length_reverse]
  exact hle

theorem Text.notMem_dropLast {front word back : Text} {c : Char} (hne : word ≠ [])
    (h : c ∉ (front ++ word ++ back).dropLast) : c ∉ word.dropLast := by
  intro hc
  apply h
  by_cases hback : back = []
  · rw [hback, List.append_nil, List.dropLast_append_of_ne_nil hne]
    exact List.mem_append_right _ hc
  · rw [List.dropLast_append_of_ne_nil hback]
    exact List.mem_append_left _ (List.mem_append_right _ (List.dropLast_subset _ hc))

/-! ## Slices of lines -/

namespace Text

/-- A line of a text stands in the text where it starts. -/
theorem exists_append_of_mem_lines {text : Text} {line : Passage} (hline : line ∈ text.lines) :
    ∃ front back, text = front ++ line.text ++ back ∧ line.start = front.length := by
  rcases mem_linesFrom hline with ⟨front, body, rest, htext, -, -, -, rfl⟩
  refine ⟨front, rest.drop 1, ?_, Nat.zero_add _⟩
  rw [htext]
  simp only [List.append_assoc, List.take_append_drop]

theorem clamp_natCast {length n : Nat} (h : n ≤ length) : clamp length (n : Int) = n := by
  unfold clamp
  rw [if_neg (by omega), Int.toNat_natCast, Nat.min_eq_left h]

/-- The characters between two positions of a line. -/
theorem slice_line (front back : Text) {word : Text} {i j : Nat} (hij : i ≤ j)
    (hj : j ≤ word.length) :
    (front ++ word ++ back).slice (front.length + i : Nat) (front.length + j : Nat) =
      (word.drop i).take (j - i) := by
  have hlength : (front ++ word ++ back).length = front.length + word.length + back.length := by
    rw [List.length_append, List.length_append]
  have hword : j - i ≤ (word.drop i).length := by
    rw [List.length_drop]
    omega
  rw [slice, clamp_natCast (by omega), clamp_natCast (by omega), Nat.add_sub_add_left,
    List.append_assoc, ← List.drop_drop, List.drop_left, List.drop_append_of_le_length (by omega),
    List.take_append_of_le_length hword]

end Text

namespace Mark

/-- The annotation of a mark is as far behind the start of the line as the mark. -/
theorem annotate_natCast (m : Mark) (lineStart : Nat) : m.annotate lineStart =
    ⟨(lineStart + m.span.start : Nat), (lineStart + m.span.stop : Nat), m.category⟩ := by
  simp only [annotate, Int.natCast_add, Int.add_comm]

/-- The characters that the annotation of a mark is about. -/
theorem slice_annotate (front back : Text) {word : Text} {m : Mark}
    (hm : m.span.start < m.span.stop) (hstop : m.span.stop ≤ word.length) :
    (front ++ word ++ back).slice (m.annotate front.length).start (m.annotate front.length).stop =
      (word.drop m.span.start).take m.span.length := by
  rw [annotate_natCast]
  exact slice_line front back hm.le hstop

end Mark

namespace RuleTable

variable (table : RuleTable)

/-- The marks of a line lie inside the line. -/
theorem within_marks (line : Text) :
    Mark.Within 0 line.length (table.marks (line.trimEnd isLineEnd)) := by
  constructor
  · exact table.marks_separate _
  · intro m _
    exact Nat.zero_le _
  · intro m hm
    have hstop := stop_le_of_mem_marks hm
    have htrim := line.length_trimEnd_le isLineEnd
    omega

/-- The pieces of a line of a text. -/
def linePieces (line : Passage) : List Piece :=
  MarkedLine.pieces ⟨line, table.marks (line.text.trimEnd isLineEnd)⟩

theorem pieces_eq (text : Text) : table.pieces text = text.lines.flatMap table.linePieces := by
  unfold pieces markLines
  rw [List.flatMap_map]
  rfl

theorem tiles_linePieces (line : Passage) :
    Tiles line.start ((table.linePieces line).map Piece.passage) line.text :=
  Piece.tiles_cut (table.within_marks line.text)

/-- The pieces of a text tile the text. -/
theorem tiles_pieces (text : Text) : Tiles 0 ((table.pieces text).map Piece.passage) text := by
  rw [pieces_eq, List.map_flatMap]
  exact (tiles_lines text).flatMap fun line _ => table.tiles_linePieces line

theorem parted_linesFrom (pos : Nat) (text : Text) :
    ((linesFrom pos text).flatMap table.linePieces).IsChain Piece.Parted := by
  induction text using line_induction generalizing pos with
  | nil => exact List.IsChain.nil
  | last body hne hbody =>
    rw [linesFrom_last hne hbody, List.flatMap_singleton]
    exact Piece.parted_cut _ _ _ _
  | line body rest hbody ih =>
    rw [linesFrom_line hbody, List.flatMap_cons]
    refine List.IsChain.append (Piece.parted_cut _ _ _ _) (ih _) ?_
    -- the last piece of the line ends it
    intro p hp q _ _ _
    have hlast := (table.tiles_linePieces ⟨pos, body ++ ['\n']⟩).getLast?_text (p := p.passage)
      (by rw [List.getLast?_map, Option.mem_def.mp hp]; rfl)
    rw [List.getLast?_concat] at hlast
    exact hlast

/-- Of two plain pieces of a text that follow each other, the first one ends its line. -/
theorem parted_pieces (text : Text) : (table.pieces text).IsChain Piece.Parted := by
  rw [pieces_eq]
  exact table.parted_linesFrom 0 text

/-- No piece goes on behind the end of a line. -/
theorem lineFeed_notMem_dropLast {text : Text} {p : Piece} (hp : p ∈ table.pieces text) :
    '\n' ∉ p.text.dropLast := by
  rw [pieces_eq, List.mem_flatMap] at hp
  rcases hp with ⟨line, hline, hp⟩
  have htiles := table.tiles_linePieces line
  have hp' := List.mem_map_of_mem (f := Piece.passage) hp
  rcases htiles.exists_append hp' with ⟨before, after, hsplit⟩
  have hfeed := notMem_dropLast_of_mem_linesFrom hline
  rw [hsplit] at hfeed
  exact notMem_dropLast (htiles.ne_nil hp') hfeed

/-! ## Pieces and annotations -/

/-- All annotations of a text, in order. -/
def annotations (text : Text) : List Annotation := (table.markLines text).flatMap (·.annotations)

/-- The characters that an annotation of a text is about are those of its mark in the line. -/
theorem slice_of_mem_marks {text : Text} {line : Passage} (hline : line ∈ text.lines) {m : Mark}
    (hm : m ∈ table.marks (line.text.trimEnd isLineEnd)) :
    text.slice (m.annotate line.start).start (m.annotate line.start).stop =
      (line.text.drop m.span.start).take m.span.length := by
  have hwithin := table.within_marks line.text
  have hne := hwithin.separate.nonempty m hm
  have hstop := hwithin.stop_le m hm
  rw [Nat.zero_add] at hstop
  rcases exists_append_of_mem_lines hline with ⟨front, back, htext, hstart⟩
  rw [htext, hstart]
  exact Mark.slice_annotate front back hne hstop

/-- The pieces with a category are the annotations of the text. -/
theorem marked_pieces (text : Text) :
    (table.pieces text).filter (·.category.isSome) = (table.annotations text).map fun a =>
      ⟨a.start.toNat, some a.category, text.slice a.start a.stop⟩ := by
  unfold annotations markLines
  rw [pieces_eq, List.filter_flatMap, List.flatMap_map, List.map_flatMap]
  apply List.flatMap_congr
  intro line hline
  rw [linePieces, MarkedLine.pieces, Piece.marked_cut (table.within_marks line.text),
    MarkedLine.annotations, List.map_map]
  apply List.map_congr_left
  intro m hm
  simp only [Function.comp_apply, table.slice_of_mem_marks hline hm, Nat.sub_zero]
  congr 1
  simp only [Mark.annotate]
  omega

end RuleTable

/-! ## Tokens -/

/-- The token without its category. -/
def Token.passage (t : Token) : Passage := ⟨t.start, t.text⟩

namespace Piece

variable {p : Piece} {pieces : List Piece}

/-- The token of a piece whose category, if it has one, exists. -/
def knownToken (p : Piece) : Token := ⟨p.start, p.category.bind Category.ofName?, p.text⟩

/-- The category of the piece, if it has one, exists. -/
def Known (p : Piece) : Prop :=
  ∀ name, p.category = some name → ∃ category, Category.ofName? name = some category

theorem Known.isSome_knownToken (known : p.Known) :
    p.knownToken.category.isSome = p.category.isSome := by
  unfold knownToken
  cases hname : p.category with
  | none => rfl
  | some name =>
    rcases known name hname with ⟨category, hcategory⟩
    simp [hcategory]

theorem Known.token (known : p.Known) : p.token = .ok p.knownToken := by
  unfold Piece.token knownToken
  cases hname : p.category with
  | none => rfl
  | some name =>
    rcases known name hname with ⟨category, hcategory⟩
    simp [hcategory]

/-- Of two plain tokens that follow each other, the first one ends its line. -/
theorem getLast?_of_plain (known : ∀ p ∈ pieces, p.Known) (parted : pieces.IsChain Parted)
    {before after : List Token} {t t' : Token}
    (h : pieces.map knownToken = before ++ t :: t' :: after)
    (ht : t.category = none) (ht' : t'.category = none) : t.text.getLast? = some '\n' := by
  rcases List.map_eq_append_iff.mp h with ⟨front, back, hsplit, -, hback⟩
  rcases List.map_eq_cons_iff.mp hback with ⟨p, pieces, rfl, rfl, hpieces⟩
  rcases List.map_eq_cons_iff.mp hpieces with ⟨p', pieces', rfl, rfl, -⟩
  have hparted := List.isChain_iff_forall_rel_of_append_cons_cons.mp parted hsplit
  have hnone : ∀ q ∈ [p, p'], q.knownToken.category = none → q.category = none := by
    intro q hq hcategory
    have hmem : q ∈ front ++ p :: p' :: pieces' := by
      simp only [List.mem_cons, List.not_mem_nil, or_false] at hq
      rcases hq with rfl | rfl <;> simp
    rw [← Option.not_isSome_iff_eq_none] at hcategory ⊢
    rwa [← (known q (hsplit ▸ hmem)).isSome_knownToken]
  exact hparted (hnone p (by simp) ht) (hnone p' (by simp) ht')

/-- The tokens that are not plain are those of the pieces with a category. -/
theorem filter_map_knownToken (known : ∀ p ∈ pieces, p.Known) :
    (pieces.map knownToken).filter (·.category.isSome) =
      (pieces.filter (·.category.isSome)).map knownToken := by
  rw [List.filter_map]
  congr 1
  exact List.filter_congr fun p hp => (known p hp).isSome_knownToken

end Piece

/-- The line that a position of a text is in, counted from zero. -/
def Text.lineNumber (text : Text) (pos : Nat) : Nat := (text.take pos).count '\n'

/-- Behind a passage that ends its line another line begins. -/
theorem Tiles.lineNumber_lt {passages before after : List Passage} {s : Text} {p q : Passage}
    (h : Tiles 0 passages s) (hpq : passages = before ++ p :: q :: after)
    (hend : p.text.getLast? = some '\n') : s.lineNumber p.start < s.lineNumber q.start := by
  have hpq' : passages = (before ++ [p]) ++ q :: after := by rw [hpq, List.append_cons]
  have hp := h.take_start hpq
  have hq := h.take_start hpq'
  have hcount : 0 < p.text.count '\n' := List.count_pos_iff.mpr (List.mem_of_getLast? hend)
  rw [Nat.sub_zero] at hp hq
  unfold lineNumber
  rw [hp, hq, List.flatMap_append, List.flatMap_singleton, List.count_append]
  omega

namespace RuleTable

variable {table : RuleTable} {text : Text}

theorem exists_rule_of_mem_annotations {a : Annotation} (ha : a ∈ table.annotations text) :
    0 ≤ a.start ∧ ∃ rule ∈ table, rule.category = a.category := by
  unfold annotations markLines at ha
  rw [List.flatMap_map, List.mem_flatMap] at ha
  rcases ha with ⟨line, -, ha⟩
  rcases List.mem_map.mp ha with ⟨m, hm, rfl⟩
  rcases List.mem_flatMap.mp (mem_candidates_of_mem_marks hm) with ⟨rule, hrule, hmark⟩
  refine ⟨?_, rule, hrule, (Rule.mem_marks.mp hmark).2.symm⟩
  simp only [Mark.annotate]
  omega

/-- The category of a piece is that of a rule. -/
theorem exists_rule_of_mem_pieces {p : Piece} (hp : p ∈ table.pieces text) {name : Text}
    (hname : p.category = some name) : ∃ rule ∈ table, rule.category = name := by
  have hmarked : p ∈ (table.pieces text).filter (·.category.isSome) := by
    rw [List.mem_filter, hname]
    exact ⟨hp, rfl⟩
  rw [marked_pieces, List.mem_map] at hmarked
  rcases hmarked with ⟨a, ha, rfl⟩
  rcases exists_rule_of_mem_annotations ha with ⟨-, rule, hrule, hcategory⟩
  rw [Option.some.injEq] at hname
  exact ⟨rule, hrule, hcategory.trans hname⟩

variable (table)

/-- All categories of the table exist. -/
def Known : Prop :=
  ∀ rule ∈ table, ∃ category, Category.ofName? rule.category = some category

variable {table}

theorem known_structural : Known structural := by
  intro rule hrule
  simp only [structural, List.mem_cons, List.not_mem_nil, or_false] at hrule
  rcases hrule with rfl | rfl | rfl
  · exact ⟨.comment, rfl⟩
  · exact ⟨.functionName, rfl⟩
  · exact ⟨.functionName, rfl⟩

/-- The category of a piece exists. -/
theorem Known.exists_category (known : table.Known) {p : Piece} (hp : p ∈ table.pieces text)
    {name : Text} (hname : p.category = some name) :
    ∃ category, Category.ofName? name = some category := by
  rcases exists_rule_of_mem_pieces hp hname with ⟨rule, hrule, rfl⟩
  exact known rule hrule

theorem Known.of_mem_pieces (known : table.Known) : ∀ p ∈ table.pieces text, p.Known :=
  fun _ hp _ hname => known.exists_category hp hname

theorem tokens_eq (known : table.Known) (text : Text) :
    table.tokens text = .ok ((table.pieces text).map Piece.knownToken) :=
  mapM_eq_ok fun p hp => (known.of_mem_pieces p hp).token

/-- Of two plain tokens that follow each other, the first one ends its line. -/
theorem getLast?_of_plain (known : table.Known) {before after : List Token} {t t' : Token}
    (h : (table.pieces text).map Piece.knownToken = before ++ t :: t' :: after)
    (ht : t.category = none) (ht' : t'.category = none) : t.text.getLast? = some '\n' :=
  Piece.getLast?_of_plain known.of_mem_pieces (table.parted_pieces text) h ht ht'

/-- The tokens that are not plain are those of the pieces with a category. -/
theorem filter_map_knownToken (known : table.Known) (text : Text) :
    ((table.pieces text).map Piece.knownToken).filter (·.category.isSome) =
      ((table.pieces text).filter (·.category.isSome)).map Piece.knownToken :=
  Piece.filter_map_knownToken known.of_mem_pieces

/-- The tokens that are not plain are the annotations. -/
theorem marked_tokens (known : table.Known) (text : Text) :
    (((table.pieces text).map Piece.knownToken).filter (·.category.isSome)).map
        (fun t => ((t.start : Int), t.category, t.text)) =
      (table.annotations text).map fun a =>
        (a.start, Category.ofName? a.category, text.slice a.start a.stop) := by
  rw [filter_map_knownToken known, marked_pieces, List.map_map, List.map_map]
  apply List.map_congr_left
  intro a ha
  have hstart := (exists_rule_of_mem_annotations ha).1
  simp only [Function.comp_apply, Piece.knownToken, Option.bind_some, Int.toNat_of_nonneg hstart]

/-- The kinds of the tokens that are not plain are those of the annotations. -/
theorem kinds_tokens (known : table.Known) (text : Text) :
    (((table.pieces text).map Piece.knownToken).filter (·.kind ≠ ("Token.Text" : Text))).map
        (fun t => ((t.start : Int), some t.kind, t.text)) =
      (table.annotations text).map fun a =>
        (a.start, Category.kinds.lookup a.category, text.slice a.start a.stop) := by
  have hmarked := congrArg (List.map fun (start, category, word) =>
    (start, Option.map Category.tokenKind category, word)) (marked_tokens known text)
  rw [List.map_map, List.map_map] at hmarked
  simp only [Function.comp_def, ← Category.lookup_kinds] at hmarked
  rw [Token.filter_kind, ← hmarked]
  apply List.map_congr_left
  intro t ht
  rw [Token.some_kind (List.mem_filter.mp ht).2]

/-- Tokens tile their text, and those that are not plain are its annotations: no token is empty,
each starts behind the tokens before it, they join up to the text, none goes on behind the end of a
line, and two plain ones in a row are on different lines. Plain tokens are of a kind of their own,
and the others of the kind that belongs to the category of the annotation. -/
theorem tokens_tile (table : RuleTable) (known : table.Known) (text : Text) :
    ∃ tokens, table.tokens text = .ok tokens ∧
      (∀ t ∈ tokens, t.text ≠ []) ∧
      (∀ before t after, tokens = before ++ t :: after →
        t.start = (before.map (·.text.length)).sum) ∧
      tokens.flatMap (·.text) = text ∧
      (∀ t ∈ tokens, '\n' ∉ t.text.dropLast) ∧
      (∀ before t t' after, tokens = before ++ t :: t' :: after →
        t.category = none → t'.category = none → text.lineNumber t.start < text.lineNumber t'.start) ∧
      (tokens.filter (·.category.isSome)).map (fun t => ((t.start : Int), t.category, t.text)) =
        (table.annotations text).map
          (fun a => (a.start, Category.ofName? a.category, text.slice a.start a.stop)) ∧
      (∀ t ∈ tokens, t.kind = "Token.Text" ↔ t.category = none) ∧
      (tokens.filter (·.kind ≠ ("Token.Text" : Text))).map
          (fun t => ((t.start : Int), some t.kind, t.text)) =
        (table.annotations text).map fun a =>
          (a.start, Category.kinds.lookup a.category, text.slice a.start a.stop) := by
  -- a token is where its piece is
  have htiles : Tiles 0 (((table.pieces text).map Piece.knownToken).map Token.passage) text := by
    rw [List.map_map]
    exact table.tiles_pieces text
  refine ⟨_, tokens_eq known text, ?_, ?_, ?_, ?_, ?_, ?_, ?_, ?_⟩
  · intro t ht
    exact htiles.ne_nil (List.mem_map_of_mem ht)
  · intro before t after htokens
    rw [htokens, List.map_append, List.map_cons] at htiles
    have hstart := htiles.start_eq rfl
    rw [List.map_map, Nat.zero_add] at hstart
    exact hstart
  · have hjoin := htiles.flatMap_text
    rw [List.flatMap_map] at hjoin
    exact hjoin
  · intro t ht
    rcases List.mem_map.mp ht with ⟨p, hp, rfl⟩
    exact table.lineFeed_notMem_dropLast hp
  · intro before t t' after htokens ht ht'
    have hend := getLast?_of_plain known htokens ht ht'
    rw [htokens, List.map_append, List.map_cons, List.map_cons] at htiles
    exact htiles.lineNumber_lt rfl hend
  · exact marked_tokens known text
  · exact fun t _ => Token.kind_eq_text_iff
  · exact kinds_tokens known text

/-- A line with a label, and one with a comment. -/
theorem tokens_tile_two_lines : Known structural ∧
    ∃ tokens, RuleTable.tokens structural "end:\r\nset # y\n" = .ok tokens ∧
      (tokens.filter (·.category.isSome)).map (fun t => ((t.start : Int), t.category, t.text)) =
        [(0, some .functionName, ("end" : Text)), (10, some .comment, ("# y" : Text))] ∧
      (tokens.filter (·.kind ≠ ("Token.Text" : Text))).map
          (fun t => ((t.start : Int), some t.kind, t.text)) =
        [(0, some ("Token.Name.Function" : Text), ("end" : Text)),
          (10, some ("Token.Comment.Single" : Text), ("# y" : Text))] := by
  obtain ⟨tokens, htokens, -, -, -, -, -, hmarked, -, hkinds⟩ :=
    tokens_tile structural known_structural "end:\r\nset # y\n"
  refine ⟨known_structural, tokens, htokens, hmarked.trans ?_, hkinds.trans ?_⟩
  · decide
  · decide +kernel

end RuleTable

end MlogHighlight
