import MlogHighlight.Proofs.Description
import MlogHighlight.Proofs.Tiling

/-!
# How far the tokens of a text go

The tokens of a text are taken one after the other, and a category that does not exist is noticed
when its first piece is reached. Since only the marks that are kept become pieces, nothing else in
the text matters. Main facts:

* `RuleTable.tokens_eq_emitted`: the tokens of a text, from those that are taken one by one;
* `Piece.emit_append`: pieces with known categories go before an error;
* `RuleTable.pairwise_annotations`: the annotations of a text are in order;
* `RuleTable.exists_unknown_iff`: which words are annotated with unknown categories;
* `RuleTable.emitted_upTo_unknown`: the tokens in front of the first such annotation, and the error.
-/

namespace MlogHighlight

open Text

/-! ## Tokens one by one -/

namespace Piece

variable {pieces front : List Piece} {p : Piece}

theorem mapM_token_eq (pieces : List Piece) : pieces.mapM Piece.token =
    match (emit pieces).2 with
    | none => .ok (emit pieces).1
    | some e => .error e := by
  induction pieces with
  | nil => rfl
  | cons p pieces ih =>
    rw [List.mapM_cons, emit]
    cases p.token with
    | error e => rfl
    | ok t =>
      rw [ih]
      cases (emit pieces).2 <;> rfl

/-- Pieces with known categories give their tokens before anything else happens. -/
theorem emit_append (known : ∀ p ∈ front, p.Known) (pieces : List Piece) :
    emit (front ++ pieces) = (front.map knownToken ++ (emit pieces).1, (emit pieces).2) := by
  induction front with
  | nil => rfl
  | cons p front ih =>
    rcases List.forall_mem_cons.mp known with ⟨hp, hfront⟩
    rw [List.cons_append, emit, hp.token, ih hfront]
    rfl

theorem emit_of_known (known : ∀ p ∈ pieces, p.Known) :
    emit pieces = (pieces.map knownToken, none) := by
  have happend := emit_append known []
  simpa only [List.append_nil, emit] using happend

/-- At a piece of an unknown category, the error names the category. -/
theorem emit_cons_of_unknown {name : Text} (hname : p.category = some name)
    (hunknown : Category.ofName? name = none) (pieces : List Piece) :
    emit (p :: pieces) = ([], some ⟨name⟩) := by
  have htoken : p.token = .error ⟨name⟩ := by
    simp only [Piece.token, hname, hunknown]
  rw [emit, htoken]

end Piece

namespace RuleTable

/-- All tokens are taken, unless one of them is an error. -/
theorem tokens_eq_emitted (table : RuleTable) (text : Text) : table.tokens text =
    match (table.emitted text).2 with
    | none => .ok (table.emitted text).1
    | some e => .error e :=
  Piece.mapM_token_eq _

end RuleTable

/-! ## The tokens of the front of a text -/

/-- The tokens are those of the text up to a position: no token is empty, each starts behind the
tokens before it, they join up to the front of the text, none goes on behind the end of a line, of
two plain ones in a row the first ends its line, and those that are not plain are the
annotations. -/
structure Token.UpTo (text : Text) (stop : Nat) (annotations : List Annotation)
    (tokens : List Token) : Prop where
  ne_nil : ∀ t ∈ tokens, t.text ≠ []
  start_eq : ∀ before t after, tokens = before ++ t :: after →
    t.start = (before.map (·.text.length)).sum
  join : tokens.flatMap (·.text) = text.take stop
  inLine : ∀ t ∈ tokens, '\n' ∉ t.text.dropLast
  parted : ∀ before t t' after, tokens = before ++ t :: t' :: after →
    t.category = none → t'.category = none → t.text.getLast? = some '\n'
  marked : (tokens.filter (·.category.isSome)).map (fun t => ((t.start : Int), t.category, t.text)) =
    annotations.map fun a => (a.start, Category.ofName? a.category, text.slice a.start a.stop)

namespace RuleTable

variable {table : RuleTable} {text : Text}

/-- The piece of an annotation. -/
def annotationPiece (text : Text) (a : Annotation) : Piece :=
  ⟨a.start.toNat, some a.category, text.slice a.start a.stop⟩

/-- The first pieces of a text, as far as their categories are known, give the tokens up to the next
one. -/
theorem upTo_of_pieces {front back : List Piece} {annotations : List Annotation}
    (hpieces : table.pieces text = front ++ back) (known : ∀ p ∈ front, p.Known)
    (hmarked : front.filter (·.category.isSome) = annotations.map (annotationPiece text))
    (hstart : ∀ a ∈ annotations, 0 ≤ a.start) :
    Token.UpTo text (front.map (·.text.length)).sum annotations (front.map Piece.knownToken) := by
  have htiles := table.tiles_pieces text
  rw [hpieces, List.map_append] at htiles
  -- the first pieces tile a front of the text, and everything is read off that tiling
  rcases htiles.of_append with ⟨code, rest, htext, hfront, -⟩
  have hjoin := hfront.flatMap_text
  rw [List.flatMap_map] at hjoin
  have hlength : (front.map (·.text.length)).sum = code.length := by
    rw [← hjoin, List.length_flatMap]
    rfl
  constructor
  · intro t ht
    rcases List.mem_map.mp ht with ⟨p, hp, rfl⟩
    exact hfront.ne_nil (List.mem_map_of_mem hp)
  · intro before t after htokens
    rcases List.map_eq_append_iff.mp htokens with ⟨first, later, rfl, rfl, hlater⟩
    rcases List.map_eq_cons_iff.mp hlater with ⟨p, last, rfl, rfl, -⟩
    rw [List.map_append, List.map_cons] at hfront
    have heq := hfront.start_eq rfl
    rw [List.map_map, Nat.zero_add] at heq
    rw [List.map_map]
    exact heq
  · rw [List.flatMap_map, htext, hlength, List.take_left]
    exact hjoin
  · intro t ht
    rcases List.mem_map.mp ht with ⟨p, hp, rfl⟩
    exact table.lineFeed_notMem_dropLast (hpieces ▸ List.mem_append_left back hp)
  · intro before t t' after htokens
    have hparted := table.parted_pieces text
    rw [hpieces] at hparted
    exact Piece.getLast?_of_plain known hparted.left_of_append htokens
  · rw [Piece.filter_map_knownToken known, hmarked, List.map_map, List.map_map]
    apply List.map_congr_left
    intro a ha
    simp only [Function.comp_apply, annotationPiece, Piece.knownToken, Option.bind_some,
      Int.toNat_of_nonneg (hstart a ha)]

/-- What is in front of the piece of an annotation. -/
theorem exists_front {before after : List Annotation} {a : Annotation}
    (h : table.annotations text = before ++ a :: after) :
    ∃ front back, table.pieces text = front ++ annotationPiece text a :: back ∧
      front.filter (·.category.isSome) = before.map (annotationPiece text) := by
  have hfilter := table.marked_pieces text
  rw [h, List.map_append, List.map_cons, List.filter_eq_append_iff] at hfilter
  -- behind the pieces of the annotations before it, plain pieces may stand in front of its piece
  rcases hfilter with ⟨front, rest, hpieces, hfront, hrest⟩
  rcases List.filter_eq_cons_iff.mp hrest with ⟨plain, back, rfl, hplain, -, -⟩
  refine ⟨front ++ plain, back, ?_, ?_⟩
  · rw [hpieces, List.append_assoc]
    rfl
  · rw [List.filter_append, hfront, List.filter_eq_nil_iff.mpr hplain, List.append_nil]
    rfl

/-- Pieces that have the categories of annotations have known categories if these are known. -/
theorem known_of_filter {pieces : List Piece} {annotations : List Annotation}
    (h : pieces.filter (·.category.isSome) = annotations.map (annotationPiece text))
    (known : ∀ a ∈ annotations, Category.ofName? a.category ≠ none) : ∀ p ∈ pieces, p.Known := by
  intro p hp name hname
  have hmem : p ∈ pieces.filter (·.category.isSome) := by
    rw [List.mem_filter, hname]
    exact ⟨hp, rfl⟩
  rw [h] at hmem
  rcases List.mem_map.mp hmem with ⟨a, ha, rfl⟩
  rw [← Option.some.inj hname]
  exact Option.ne_none_iff_exists'.mp (known a ha)

/-- The annotations of a text are in order. -/
theorem pairwise_annotations (table : RuleTable) (text : Text) :
    (table.annotations text).Pairwise fun a b => a.start < b.start := by
  have hpieces := (table.tiles_pieces text).pairwise
  rw [List.pairwise_map] at hpieces
  have hmarked := (hpieces.filter (·.category.isSome))
  rw [marked_pieces, List.pairwise_map] at hmarked
  apply hmarked.imp_of_mem
  intro a b ha hb hab
  -- pieces are not empty, so what follows a piece starts further on
  have hne : text.slice a.start a.stop ≠ [] := by
    have hmem : annotationPiece text a ∈ (table.pieces text).filter (·.category.isSome) := by
      rw [marked_pieces]
      exact List.mem_map_of_mem ha
    exact (table.tiles_pieces text).ne_nil (List.mem_map_of_mem (List.mem_filter.mp hmem).1)
  have hlength := List.length_pos_iff.mpr hne
  have ha' := (exists_rule_of_mem_annotations ha).1
  have hb' := (exists_rule_of_mem_annotations hb).1
  simp only [Passage.stop, Piece.passage] at hab
  omega

/-! ## Unknown categories -/

theorem emitted_of_known
    (known : ∀ a ∈ table.annotations text, Category.ofName? a.category ≠ none) :
    table.emitted text = ((table.pieces text).map Piece.knownToken, none) ∧
      Token.UpTo text text.length (table.annotations text)
        ((table.pieces text).map Piece.knownToken) := by
  have hmarked : (table.pieces text).filter (·.category.isSome) =
      (table.annotations text).map (annotationPiece text) := table.marked_pieces text
  have hpieces := known_of_filter hmarked known
  have hjoin := (table.tiles_pieces text).flatMap_text
  rw [List.flatMap_map] at hjoin
  have hlength : ((table.pieces text).map (·.text.length)).sum = text.length := by
    conv_rhs => rw [← hjoin, List.length_flatMap]
    rfl
  refine ⟨Piece.emit_of_known hpieces, ?_⟩
  rw [← hlength]
  exact upTo_of_pieces (List.append_nil _).symm hpieces hmarked
    fun a ha => (exists_rule_of_mem_annotations ha).1

theorem emitted_of_unknown {before after : List Annotation} {a : Annotation}
    (h : table.annotations text = before ++ a :: after)
    (known : ∀ b ∈ before, Category.ofName? b.category ≠ none)
    (hunknown : Category.ofName? a.category = none) :
    ∃ tokens, table.emitted text = (tokens, some ⟨a.category⟩) ∧
      Token.UpTo text a.start.toNat before tokens := by
  rcases exists_front h with ⟨front, back, hpieces, hfront⟩
  have hknown := known_of_filter hfront known
  have htiles := table.tiles_pieces text
  rw [hpieces, List.map_append, List.map_cons] at htiles
  -- the piece of the annotation is behind the pieces in front of it
  have hstart := htiles.start_eq rfl
  rw [List.map_map, Nat.zero_add] at hstart
  refine ⟨front.map Piece.knownToken, ?_, ?_⟩
  · rw [emitted, hpieces, Piece.emit_append hknown, Piece.emit_cons_of_unknown rfl hunknown,
      List.append_nil]
  · rw [show a.start.toNat = (front.map (·.text.length)).sum from hstart]
    refine upTo_of_pieces hpieces hknown hfront fun b hb => ?_
    exact (exists_rule_of_mem_annotations (h ▸ List.mem_append_left _ hb)).1

theorem tokens_of_emitted_error {tokens : List Token} {e : UnknownCategory}
    (h : table.emitted text = (tokens, some e)) : table.tokens text = .error e := by
  rw [tokens_eq_emitted, h]

theorem tokens_of_emitted_ok {tokens : List Token} (h : table.emitted text = (tokens, none)) :
    table.tokens text = .ok tokens := by
  rw [tokens_eq_emitted, h]

/-- The tokens end in an error just if some annotation has an unknown category. -/
theorem exists_tokens_eq_error_iff : (∃ e, table.tokens text = .error e) ↔
    ∃ a ∈ table.annotations text, Category.ofName? a.category = none := by
  constructor
  · rintro ⟨e, he⟩
    by_contra hknown
    have hall : ∀ a ∈ table.annotations text, Category.ofName? a.category ≠ none :=
      fun a ha hnone => hknown ⟨a, ha, hnone⟩
    rw [tokens_of_emitted_ok (emitted_of_known hall).1] at he
    simp at he
  · rintro ⟨a, ha, hunknown⟩
    -- the first of them is where the tokens end
    cases hfirst : (table.annotations text).find? fun a => (Category.ofName? a.category).isNone with
    | none =>
      have hknown := List.find?_eq_none.mp hfirst a ha
      simp [hunknown] at hknown
    | some first =>
      rcases List.find?_eq_some_iff_append.mp hfirst with ⟨hnone, before, after, hsplit, hbefore⟩
      have hknown : ∀ b ∈ before, Category.ofName? b.category ≠ none := by
        intro b hb hnone
        simpa [hnone] using hbefore b hb
      rcases emitted_of_unknown hsplit hknown (by simpa using hnone) with ⟨tokens, hemitted, -⟩
      exact ⟨_, tokens_of_emitted_error hemitted⟩

/-- An annotation of an unknown category is that of a word that is in no comment and no label, and
whose first set has that category. -/
theorem exists_unknown_iff {sets : Vocabulary} (h : ∀ line, table.Describes sets line) :
    (∃ a ∈ table.annotations text, Category.ofName? a.category = none) ↔
      ∃ line ∈ text.lines, ∃ span ∈ Word.pattern.spans (line.text.trimEnd isLineEnd),
        (∀ comment ∈ Comment.pattern.spans (line.text.trimEnd isLineEnd), ¬ span.Inside comment) ∧
        span ∉ Label.spans (line.text.trimEnd isLineEnd) ∧
        ∃ category, sets.category? (span.content (line.text.trimEnd isLineEnd)) = some category ∧
          Category.ofName? category = none := by
  unfold annotations markLines
  rw [List.flatMap_map]
  constructor
  · rintro ⟨a, ha, hunknown⟩
    rcases List.mem_flatMap.mp ha with ⟨line, hline, ha⟩
    rcases List.mem_map.mp ha with ⟨m, hm, rfl⟩
    refine ⟨line, hline, ?_⟩
    cases (h _ m).mp hm with
    | comment span hspan => exact absurd hunknown (by simp [Mark.annotate])
    | label span hspan => exact absurd hunknown (by simp [Mark.annotate])
    | word span category hspan hcomment hlabel hcategory =>
      exact ⟨span, hspan, hcomment, hlabel, category, hcategory, hunknown⟩
  · rintro ⟨line, hline, span, hspan, hcomment, hlabel, category, hcategory, hunknown⟩
    have hm := (h _ _).mpr (Vocabulary.Marked.word span category hspan hcomment hlabel hcategory)
    refine ⟨Mark.annotate ⟨span, category⟩ line.start, ?_, hunknown⟩
    exact List.mem_flatMap.mpr ⟨line, hline, List.mem_map_of_mem hm⟩

/-- The tokens of a text end in an error just if some annotation has an unknown category. The error
names the category of the first such annotation, and the tokens in front of it have been taken then:
those of the text up to the annotation. Words of a set with an unknown category are annotated only
where no earlier set has them, and neither in comments, nor as labels, nor inside longer words. -/
theorem emitted_upTo_unknown (sets : Vocabulary)
    (transforms : ∀ set ∈ sets, ∃ transform, Naming.Transform.ofName? set.transform = some transform)
    (text : Text) :
    ∃ table, build sets = .ok table ∧
      (table.annotations text).Pairwise (fun a b => a.start < b.start) ∧
      ((∃ e, table.tokens text = .error e) ↔
        ∃ a ∈ table.annotations text, Category.ofName? a.category = none) ∧
      (∀ before a after, table.annotations text = before ++ a :: after →
        (∀ b ∈ before, Category.ofName? b.category ≠ none) → Category.ofName? a.category = none →
        table.tokens text = .error ⟨a.category⟩ ∧
          ∃ tokens, table.emitted text = (tokens, some ⟨a.category⟩) ∧
            Token.UpTo text a.start.toNat before tokens) ∧
      ((∀ a ∈ table.annotations text, Category.ofName? a.category ≠ none) →
        ∃ tokens, table.tokens text = .ok tokens ∧ table.emitted text = (tokens, none) ∧
          Token.UpTo text text.length (table.annotations text) tokens) ∧
      ((∃ e, table.tokens text = .error e) ↔
        ∃ line ∈ text.lines, ∃ span ∈ Word.pattern.spans (line.text.trimEnd isLineEnd),
          (∀ comment ∈ Comment.pattern.spans (line.text.trimEnd isLineEnd),
            ¬ span.Inside comment) ∧
          span ∉ Label.spans (line.text.trimEnd isLineEnd) ∧
          ∃ category, sets.category? (span.content (line.text.trimEnd isLineEnd)) = some category ∧
            Category.ofName? category = none) := by
  rcases exists_describes sets transforms with ⟨table, hbuild, hdescribes⟩
  refine ⟨table, hbuild, table.pairwise_annotations text, exists_tokens_eq_error_iff, ?_, ?_, ?_⟩
  · intro before a after hsplit hknown hunknown
    rcases emitted_of_unknown hsplit hknown hunknown with ⟨tokens, hemitted, hupTo⟩
    exact ⟨tokens_of_emitted_error hemitted, tokens, hemitted, hupTo⟩
  · intro hknown
    rcases emitted_of_known hknown with ⟨hemitted, hupTo⟩
    exact ⟨_, tokens_of_emitted_ok hemitted, hemitted, hupTo⟩
  · exact exists_tokens_eq_error_iff.trans (exists_unknown_iff hdescribes)

/-- A word of an unknown category, which is a label and in a comment as well; an earlier set has the
other word. -/
theorem emitted_upTo_unknown_colour :
    (∀ set ∈ ([⟨"words", "keyword", "none", ["set"]⟩,
        ⟨"paint", "colour", "none", ["set", "red"]⟩] : Vocabulary),
      ∃ transform, Naming.Transform.ofName? set.transform = some transform) ∧
    ∃ table, build [⟨"words", "keyword", "none", ["set"]⟩,
        ⟨"paint", "colour", "none", ["set", "red"]⟩] = .ok table ∧
      table.tokens "red:\n# red\nset red" = .error ⟨"colour"⟩ ∧
      ∃ tokens, table.emitted "red:\n# red\nset red" = (tokens, some ⟨"colour"⟩) ∧
        tokens.flatMap (·.text) = "red:\n# red\nset ".toList := by
  have transforms : ∀ set ∈ ([⟨"words", "keyword", "none", ["set"]⟩,
      ⟨"paint", "colour", "none", ["set", "red"]⟩] : Vocabulary),
      ∃ transform, Naming.Transform.ofName? set.transform = some transform := by
    intro set hset
    simp only [List.mem_cons, List.not_mem_nil, or_false] at hset
    rcases hset with rfl | rfl <;> exact ⟨.none, rfl⟩
  rcases emitted_upTo_unknown _ transforms "red:\n# red\nset red" with ⟨table, hbuild, -, -, hfirst, -⟩
  have htable := Except.ok.inj hbuild
  have hannotations : table.annotations "red:\n# red\nset red" =
      [⟨0, 3, "function-name"⟩, ⟨5, 10, "comment"⟩, ⟨11, 14, "keyword"⟩] ++ ⟨15, 18, "colour"⟩ :: [] := by
    rw [← htable]
    decide
  rcases hfirst _ _ _ hannotations (by decide) (by decide) with ⟨htokens, tokens, hemitted, hupTo⟩
  exact ⟨transforms, table, hbuild, htokens, tokens, hemitted, hupTo.join⟩

end RuleTable

end MlogHighlight
