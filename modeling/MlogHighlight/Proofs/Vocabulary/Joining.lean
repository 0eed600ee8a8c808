import MlogHighlight.Proofs.TabStops
import MlogHighlight.Proofs.Vocabulary.Parsing

/-!
# Joining vocabulary texts

Two vocabulary texts can be joined, with a line feed between them. A declaration ends at its brace,
so whatever follows, the declarations of the first text stay what they are, and its last comment
ends at the line feed. Only the names may clash. Main facts:

* `IsGap.mono`: what a gap asks of the text behind it;
* `DeclarationLayout.Fits.behind`: a declaration asks nothing of the text behind it;
* `declarations_join`: the declarations of joined texts;
* `parse_join`: what joined texts are parsed to.
-/

namespace MlogHighlight.Vocabulary

open Text

/-! ## What follows an element -/

/-- A gap ends in a comment only if a line ends behind it. -/
theorem IsGap.mono {gap rest rest' : Text} (h : IsGap gap rest)
    (hrest : AtLineEnd rest → AtLineEnd rest') : IsGap gap rest' := by
  induction h with
  | nil => exact IsGap.nil rest'
  | blank c gap rest hc _ ih => exact IsGap.blank c gap rest' hc (ih hrest)
  | comment words gap rest hwords hend _ ih =>
    refine IsGap.comment words gap rest' hwords ?_ (ih hrest)
    cases gap with
    | nil => exact hrest hend
    | cons c gap => exact hend.of_head? rfl

theorem IsGap.of_head? {gap rest rest' : Text} (h : IsGap gap rest)
    (heq : rest.head? = rest'.head?) : IsGap gap rest' := h.mono fun hend => hend.of_head? heq

theorem WordLayout.head?_text (w : WordLayout) {rest rest' : Text} (heq : rest.head? = rest'.head?) :
    (w.text rest).head? = (w.text rest').head? := by
  cases w with
  | bare word => exact head?_append_congr word heq
  | quoted body => rfl

theorem WordLayout.Fits.of_head? {w : WordLayout} {rest rest' : Text} (h : w.Fits rest)
    (heq : rest.head? = rest'.head?) : w.Fits rest' := by
  cases w with
  | bare word => exact ⟨h.1, h.2.1, h.2.2.of_head? heq⟩
  | quoted body => exact h

section Sequence

variable {α : Type} {text : α → Text → Text} {fits : α → Text → Prop}

theorem head?_sequenceText
    (htext : ∀ a rest rest', rest.head? = rest'.head? → (text a rest).head? = (text a rest').head?)
    (items : List (Text × α)) {rest rest' : Text} (heq : rest.head? = rest'.head?) :
    (sequenceText text items rest).head? = (sequenceText text items rest').head? := by
  induction items with
  | nil => exact heq
  | cons item items ih => exact head?_append_congr item.1 (htext _ _ _ ih)

/-- A sequence fits in front of every text that begins alike if its elements do. -/
theorem SequenceFits.of_head?
    (htext : ∀ a rest rest', rest.head? = rest'.head? → (text a rest).head? = (text a rest').head?)
    (hfits : ∀ a rest rest', rest.head? = rest'.head? → fits a rest → fits a rest')
    {items : List (Text × α)} {rest rest' : Text} (h : SequenceFits text fits items rest)
    (heq : rest.head? = rest'.head?) : SequenceFits text fits items rest' := by
  induction items with
  | nil => trivial
  | cons item items ih =>
    rcases h with ⟨hgap, hitem, hitems⟩
    have hbehind := head?_sequenceText htext items heq
    exact ⟨hgap.of_head? (htext _ _ _ hbehind), hfits _ _ _ hbehind hitem, ih hitems⟩

end Sequence

/-! ## What follows a declaration -/

variable {rest : Text}

theorem BodyLayout.head?_bracesText (b : BodyLayout) (rest rest' : Text) :
    (b.bracesText rest).head? = (b.bracesText rest').head? := head?_append_congr b.gapOpen rfl

theorem BodyLayout.head?_text (b : BodyLayout) (rest rest' : Text) :
    (b.text rest).head? = (b.text rest').head? := by
  unfold text
  split
  · exact b.head?_bracesText rest rest'
  · exact head?_append_congr _ (head?_append_congr _ (b.head?_bracesText rest rest'))

theorem endsTransform_of_head? {s t : Text} (h : endsTransform s = true)
    (heq : s.head? = t.head?) : endsTransform t = true := by
  cases s <;> cases t <;> simp_all [endsTransform]

/-- A body ends at its brace, whatever follows. -/
theorem BodyLayout.Fits.behind {b : BodyLayout} (h : b.Fits rest) (rest' : Text) : b.Fits rest' := by
  have hbraces := b.head?_bracesText rest rest'
  refine ⟨?_, h.gapOpen.of_head? rfl, ?_, h.gapClose.of_head? rfl⟩
  · intro gap t ht
    rcases h.transform gap t ht with ⟨hgap, hend⟩
    exact ⟨hgap.of_head? (head?_append_congr t.name hbraces), endsTransform_of_head? hend hbraces⟩
  · exact h.words.of_head? (fun w _ _ => w.head?_text) (fun _ _ _ heq hw => hw.of_head? heq)
      (head?_append_congr b.gapClose rfl)

theorem DeclarationLayout.head?_text (d : DeclarationLayout) (rest rest' : Text) :
    (d.text rest).head? = (d.text rest').head? :=
  head?_append_congr d.name (head?_append_congr d.gapColon rfl)

/-- A declaration ends at its brace, whatever follows. -/
theorem DeclarationLayout.Fits.behind {d : DeclarationLayout} (h : d.Fits rest) (rest' : Text) :
    d.Fits rest' := by
  have hbody := d.body.head?_text rest rest'
  refine ⟨h.name, ?_, h.gapColon.of_head? rfl, ?_, h.categoryEnd.of_head? hbody, h.body.behind rest'⟩
  · exact h.nameEnd.of_head? (head?_append_congr d.gapColon rfl)
  · exact h.gapCategory.of_head? (head?_append_congr d.category.name hbody)

/-- So do declarations. -/
theorem sequenceFits_behind {items : List (Text × DeclarationLayout)}
    (h : SequenceFits DeclarationLayout.text DeclarationLayout.Fits items rest) (rest' : Text) :
    SequenceFits DeclarationLayout.text DeclarationLayout.Fits items rest' := by
  induction items with
  | nil => trivial
  | cons item items ih =>
    rcases h with ⟨hgap, hitem, hitems⟩
    exact ⟨hgap.of_head? (item.2.head?_text _ _), hitem.behind _, ih hitems⟩

/-! ## Joined texts -/

/-- The declarations of joined texts are those of the first text and then those of the second. -/
theorem declarations_join {layout layout' : Layout} (h : layout.Fits) (h' : layout'.Fits) :
    declarations (layout.text ++ '\n' :: layout'.text) =
      (layout.vocabulary ++ layout'.vocabulary, .noDeclaration []) := by
  have hdeclarations := sequenceFits_behind h.declarations (layout.lastGap ++ '\n' :: layout'.text)
  have hgap : IsGap layout.lastGap ('\n' :: layout'.text) := h.lastGap.mono fun _ => Or.inr rfl
  -- between the texts there is only a gap
  have hskip : skipGap (layout.lastGap ++ '\n' :: layout'.text) = skipGap layout'.text := by
    rw [skipGap_append_of_isGap hgap, skipGap_blank (by decide)]
  have htext : layout.text ++ '\n' :: layout'.text =
      sequenceText DeclarationLayout.text layout.declarations
        (layout.lastGap ++ '\n' :: layout'.text) :=
    sequenceText_append_text DeclarationLayout.text_append _ _ _
  have hlength : layout.declarations.length + (layout.lastGap ++ '\n' :: layout'.text).length ≤
      (layout.text ++ '\n' :: layout'.text).length := by
    rw [htext]
    exact length_add_le_sequenceText (fun _ _ => length_lt_declaration) hdeclarations
  rw [List.length_append, List.length_cons] at hlength
  unfold declarations
  generalize (layout.text ++ '\n' :: layout'.text).length = fuel at hlength ⊢
  rw [htext, declarationsWithin_sequence hdeclarations (by omega),
    declarationsWithin_of_skipGap hskip, h'.declarationsWithin_eq (by omega)]
  rfl

theorem expandTabs_join (width : Nat) (s t : Text) :
    (s ++ '\n' :: t).expandTabs width = s.expandTabs width ++ '\n' :: t.expandTabs width := by
  rw [expandTabs, expandTabsFrom_append, expandTabsFrom_cons_of_ne (by decide)]
  rfl

/-- Vocabulary texts can be joined by a line feed. The joined text is parsed to the sets of the first
text and then those of the second, unless a set of the second text has a name that occurs in the
first. Then the fault is a duplicate, and the first such set is named. -/
theorem parse_join {s t : Text} {sets sets' : Vocabulary} (h : parse s = .ok sets)
    (h' : parse t = .ok sets') :
    parse (s ++ '\n' :: t) =
        (match sets'.find? fun set => set.name ∈ sets.map (·.name) with
          | none => .ok (sets ++ sets')
          | some set => .error (.duplicateSet set.name)) ∧
      ∀ name : Text, (Fault.duplicateSet name).message = "duplicate set: " ++ name := by
  refine ⟨?_, fun name => rfl⟩
  rcases parseExpanded_eq_ok_iff_layout.mp h with ⟨layout, hfits, htext, hnodup, rfl⟩
  rcases parseExpanded_eq_ok_iff_layout.mp h' with ⟨layout', hfits', htext', hnodup', rfl⟩
  have hread := declarations_join hfits hfits'
  rw [htext, htext', ← expandTabs_join] at hread
  have hnone : firstDuplicate? [] layout.vocabulary = none :=
    firstDuplicate?_eq_none.mpr ⟨by simp, hnodup⟩
  -- the names of the first text are the ones seen before the second
  have hfirst : firstDuplicate? [] (layout.vocabulary ++ layout'.vocabulary) =
      (layout'.vocabulary.find? fun set => set.name ∈ layout.vocabulary.map (·.name)).map
        (·.name) := by
    rw [firstDuplicate?_append, hnone, Option.none_or, firstDuplicate?_of_nodup hnodup']
    simp
  rw [parse, parseExpanded_of_declarations hread, hfirst]
  cases layout'.vocabulary.find? fun set => set.name ∈ layout.vocabulary.map (·.name) with
  | none => rfl
  | some set => rfl

/-- Texts that end in a comment, with a tab in the second one and with no name in common, and with
two names in common. -/
theorem parse_join_comment :
    parse "a:type\x7bx\x7db:type\x7b\x7d#" =
      .ok [⟨"a", "type", "none", ["x"]⟩, ⟨"b", "type", "none", []⟩] ∧
    parse "\tc:keyword\x7b\x7d#" = .ok [⟨"c", "keyword", "none", []⟩] ∧
    parse "c:type\x7b\x7d b:type\x7b\x7d a:type\x7b\x7d" =
      .ok [⟨"c", "type", "none", []⟩, ⟨"b", "type", "none", []⟩, ⟨"a", "type", "none", []⟩] ∧
    parse (("a:type\x7bx\x7db:type\x7b\x7d#" : Text) ++ '\n' :: ("\tc:keyword\x7b\x7d#" : Text)) =
      .ok [⟨"a", "type", "none", ["x"]⟩, ⟨"b", "type", "none", []⟩,
        ⟨"c", "keyword", "none", []⟩] ∧
    parse (("a:type\x7bx\x7db:type\x7b\x7d#" : Text) ++
        '\n' :: ("c:type\x7b\x7d b:type\x7b\x7d a:type\x7b\x7d" : Text)) =
      .error (.duplicateSet "b") := by
  have hfirst : parse "a:type\x7bx\x7db:type\x7b\x7d#" =
      .ok [⟨"a", "type", "none", ["x"]⟩, ⟨"b", "type", "none", []⟩] := by decide
  have hdistinct : parse "\tc:keyword\x7b\x7d#" = .ok [⟨"c", "keyword", "none", []⟩] := by decide
  have hclash : parse "c:type\x7b\x7d b:type\x7b\x7d a:type\x7b\x7d" =
      .ok [⟨"c", "type", "none", []⟩, ⟨"b", "type", "none", []⟩, ⟨"a", "type", "none", []⟩] := by
    decide
  exact ⟨hfirst, hdistinct, hclash, (parse_join hfirst hdistinct).1, (parse_join hfirst hclash).1⟩

end MlogHighlight.Vocabulary
