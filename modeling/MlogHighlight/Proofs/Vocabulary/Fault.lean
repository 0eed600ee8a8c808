import Mathlib.Order.Lattice.Nat
import MlogHighlight.Proofs.Vocabulary.Parsing

/-!
# What is wrong with a text, and where

A text that is no vocabulary begins with some declarations, as many as there are, and something else
follows them. If that is a name and a colon in front of a category that does not exist, the fault is
this category. Otherwise the fault is that the text does not end there, however far a declaration
could be read. Only if it does end there, a name may have occurred before. Main facts:

* `exists_leadingDeclarations`: every text has its leading declarations;
* `LeadingDeclarations.declarations_eq`: they are what is read of it;
* `Place.isBehind_iff`: the line and the column of a place;
* `parse_eq_error_iff`: the fault of a text.
-/

namespace MlogHighlight

open Text

/-- A name is no category's just if the look-up fails. -/
theorem Category.ofName?_eq_none {s : Text} : ofName? s = none ↔ ∀ c : Category, c.name ≠ s := by
  constructor
  · rintro h c rfl
    simp at h
  · intro h
    cases hfound : ofName? s with
    | none => rfl
    | some c => exact absurd (name_of_ofName? hfound) (h c)

namespace Vocabulary

/-! ## Places -/

/-- The place is right behind the text: so many characters are in front of it, so many line feeds,
and so many characters since the last line feed; lines and columns count from one. -/
def Place.IsBehind (p : Place) (before : Text) : Prop :=
  p.offset = before.length ∧ p.line = before.count '\n' + 1 ∧
    ∃ front body, before = front ++ body ∧ EndsLine front ∧ '\n' ∉ body ∧
      p.column = body.length + 1

theorem Place.isBehind_iff {p : Place} {before : Text} : p.IsBehind before ↔ p = .after before := by
  have hcolumn : ∀ front body : Text, EndsLine front → '\n' ∉ body →
      (Place.after (front ++ body)).column = body.length + 1 := by
    intro front body hfront hbody
    rw [after, takeWhile_reverse_line hfront hbody, List.length_reverse]
  constructor
  · rintro ⟨hoffset, hline, front, body, rfl, hfront, hbody, hplace⟩
    rw [← hcolumn front body hfront hbody] at hplace
    cases p
    simp_all [after]
  · rintro rfl
    rcases exists_endsLine_append before with ⟨front, body, rfl, hfront, hbody⟩
    exact ⟨rfl, rfl, front, body, rfl, hfront, hbody, hcolumn front body hfront hbody⟩

theorem Place.ofRest_append (before rest : Text) : Place.ofRest (before ++ rest) rest = .after before := by
  rw [ofRest, List.length_append, Nat.add_sub_cancel, List.take_left]

/-! ## Leading declarations -/

/-- The text begins with the declarations, and `rest` follows them behind a gap. -/
def BeginsWith (s : Text) (declarations : List (Text × DeclarationLayout)) (rest : Text) : Prop :=
  ∃ gap, sequenceText DeclarationLayout.text declarations (gap ++ rest) = s ∧
    SequenceFits DeclarationLayout.text DeclarationLayout.Fits declarations (gap ++ rest) ∧
    IsGap gap rest ∧ Stops beginsGap rest

/-- The text begins with the declarations, and with no more than these. -/
structure LeadingDeclarations (s : Text) (declarations : List (Text × DeclarationLayout))
    (rest : Text) : Prop where
  begins : BeginsWith s declarations rest
  most : ∀ declarations' rest', BeginsWith s declarations' rest' →
    declarations'.length ≤ declarations.length

variable {s rest : Text} {items : List (Text × DeclarationLayout)}

theorem beginsWith_nil (s : Text) : BeginsWith s [] (skipGap s) := by
  rcases exists_gap s with ⟨gap, hs, hgap, hstops⟩
  exact ⟨gap, hs.symm, trivial, hgap, hstops⟩

theorem BeginsWith.length_le (h : BeginsWith s items rest) : items.length ≤ s.length := by
  rcases h with ⟨gap, rfl, hitems, -, -⟩
  exact length_le_sequenceText (fun _ _ => length_lt_declaration) hitems

theorem BeginsWith.exists_append (h : BeginsWith s items rest) : ∃ before, s = before ++ rest := by
  rcases h with ⟨gap, rfl, -, -, -⟩
  exact ⟨sequenceText DeclarationLayout.text items gap,
    (sequenceText_append_text DeclarationLayout.text_append items gap rest).symm⟩

theorem BeginsWith.skipGap_eq (h : BeginsWith s items rest) : skipGap rest = rest := by
  rcases h with ⟨gap, -, -, -, hstops⟩
  exact skipGap_of_stops hstops

/-- One more declaration may follow. -/
theorem BeginsWith.concat (h : BeginsWith s items rest) {set : VocabularySet} {behind : Text}
    (hread : declaration rest = .declared set behind) :
    ∃ item, BeginsWith s (items ++ [item]) (skipGap behind) := by
  rcases h with ⟨gap, rfl, hitems, hgap, hstops⟩
  have hskip : skipGap (gap ++ rest) = skipGap rest := skipGap_append_of_isGap hgap
  rw [← declaration_of_skipGap hskip] at hread
  rcases exists_declaration hread with ⟨gap', d, hrest, hgap', hd, -⟩
  rcases exists_gap behind with ⟨gapBehind, hbehind, hgapBehind, hstopsBehind⟩
  have htext : gap ++ rest = sequenceText DeclarationLayout.text [(gap', d)]
      (gapBehind ++ skipGap behind) := by
    rw [← hbehind]
    exact hrest
  refine ⟨(gap', d), gapBehind, ?_, ?_, hgapBehind, hstopsBehind⟩
  · rw [sequenceText_append, ← htext]
  · rw [sequenceFits_append, ← htext]
    refine ⟨hitems, ?_, ?_, trivial⟩
    · rw [sequenceText, ← hbehind]
      exact hgap'
    · rw [sequenceText, ← hbehind]
      exact hd

/-- Every text has its leading declarations: no text begins with more declarations than it has
characters. -/
theorem exists_leadingDeclarations (s : Text) : ∃ items rest, LeadingDeclarations s items rest := by
  let counts : Set Nat := {n | ∃ items rest, BeginsWith s items rest ∧ items.length = n}
  have hnonempty : counts.Nonempty := ⟨0, [], skipGap s, beginsWith_nil s, rfl⟩
  have hbounded : BddAbove counts := by
    refine ⟨s.length, ?_⟩
    rintro n ⟨items, rest, hbegins, rfl⟩
    exact hbegins.length_le
  rcases Nat.sSup_mem hnonempty hbounded with ⟨items, rest, hbegins, hlength⟩
  refine ⟨items, rest, hbegins, ?_⟩
  intro items' rest' hbegins'
  rw [hlength]
  exact le_csSup hbounded ⟨items', rest', hbegins', rfl⟩

/-- No declaration follows the leading ones. -/
theorem LeadingDeclarations.declaration_ne (h : LeadingDeclarations s items rest)
    (set : VocabularySet) (behind : Text) : declaration rest ≠ .declared set behind := by
  intro hread
  rcases h.begins.concat hread with ⟨item, hmore⟩
  have hlength := h.most _ _ hmore
  rw [List.length_append, List.length_singleton] at hlength
  omega

/-! ## What is read of a text -/

/-- What ends the declarations in front of a text that is none. -/
def endingAt (rest : Text) : Ending :=
  match declaration rest with
  | .unknownCategory behind => .unknownCategory behind
  | _ => .noDeclaration rest

theorem declarationsWithin_of_ne (hne : ∀ set behind, declaration rest ≠ .declared set behind)
    (hskip : skipGap rest = rest) {fuel : Nat} (hfuel : rest.length ≤ fuel) :
    declarationsWithin fuel rest = ([], endingAt rest) := by
  cases fuel with
  | zero =>
    obtain rfl : rest = [] := List.length_eq_zero_iff.mp (Nat.le_zero.mp hfuel)
    rfl
  | succ fuel =>
    rw [declarationsWithin, endingAt]
    cases hread : declaration rest with
    | declared set behind => exact absurd hread (hne set behind)
    | unknownCategory behind => rfl
    | mismatch => rw [hskip]

/-- The leading declarations are read, and nothing else. -/
theorem LeadingDeclarations.declarations_eq (h : LeadingDeclarations s items rest) :
    declarations s = (items.map (·.2.set), endingAt rest) := by
  have hskip := h.begins.skipGap_eq
  have hne := h.declaration_ne
  rcases h.begins with ⟨gap, rfl, hitems, hgap, -⟩
  have hlength : items.length + (gap ++ rest).length ≤
      (sequenceText DeclarationLayout.text items (gap ++ rest)).length :=
    length_add_le_sequenceText (fun _ _ => length_lt_declaration) hitems
  rw [List.length_append] at hlength
  rw [declarations, declarationsWithin_sequence hitems (by omega),
    declarationsWithin_of_skipGap (skipGap_append_of_isGap hgap),
    declarationsWithin_of_ne hne hskip (by omega), List.append_nil]

/-! ## Unknown categories -/

/-- The text begins with a head whose category does not exist. -/
def NamesUnknown (head : HeadLayout) (behind : Text) : Prop :=
  head.Fits behind ∧ ∀ c : Category, c.name ≠ head.category

theorem NamesUnknown.declaration_eq {head : HeadLayout} {behind : Text}
    (h : NamesUnknown head behind) :
    declaration (head.text behind) = .unknownCategory (head.category ++ behind) := by
  have hread := declaration_head (IsGap.nil (head.text behind)) h.1
  rw [Category.ofName?_eq_none.mpr h.2] at hread
  exact hread

theorem exists_namesUnknown {behind : Text} (hskip : skipGap rest = rest)
    (h : declaration rest = .unknownCategory behind) :
    ∃ head behind', rest = HeadLayout.text head behind' ∧ NamesUnknown head behind' ∧
      behind = head.category ++ behind' := by
  rcases exists_unknownCategory h with ⟨gap, head, behind', hrest, hgap, hhead, hunknown, hbehind⟩
  -- the rest does not begin with a gap
  have hnone := skipGap_append hgap (stops_name hhead.name _)
  rw [← hrest, hskip] at hnone
  exact ⟨head, behind', hnone, ⟨hhead, Category.ofName?_eq_none.mp hunknown⟩, hbehind⟩

/-! ## Faults -/

/-- What is wrong with a text without tabs. Behind its leading declarations stands a name and a colon
in front of a category that does not exist; or something else; or nothing, and the name of some set
has occurred before. -/
inductive IsFault (s : Text) : Fault → Prop where
  | unknownCategory {items : List (Text × DeclarationLayout)} {head : HeadLayout}
      {before behind : Text} {place : Place} :
      LeadingDeclarations s items (head.text behind) → NamesUnknown head behind →
      s = before ++ (head.category ++ behind) → place.IsBehind before →
      IsFault s (.unknownCategory place (quotedExcerpt (head.category ++ behind)))
  | expectedEnd {items : List (Text × DeclarationLayout)} {before rest : Text} {place : Place} :
      LeadingDeclarations s items rest →
      (∀ head behind, NamesUnknown head behind → rest ≠ head.text behind) → rest ≠ [] →
      s = before ++ rest → place.IsBehind before →
      IsFault s (.expectedEnd place (quotedExcerpt rest))
  | duplicateSet {items : List (Text × DeclarationLayout)} {before after : Vocabulary}
      {set : VocabularySet} :
      LeadingDeclarations s items [] → items.map (·.2.set) = before ++ set :: after →
      (before.map (·.name)).Nodup → set.name ∈ before.map (·.name) →
      IsFault s (.duplicateSet set.name)

/-- A text has only the fault that is reported. -/
theorem IsFault.parseExpanded_eq {fault : Fault} (h : IsFault s fault) :
    parseExpanded s = .error fault := by
  cases h with
  | unknownCategory hleading hunknown hs hplace =>
    rw [parseExpanded, hleading.declarations_eq, endingAt, hunknown.declaration_eq, hs,
      Place.isBehind_iff.mp hplace]
    simp only [Place.ofRest_append]
  | expectedEnd hleading hknown hne hs hplace =>
    rename_i items before rest place
    have hend : endingAt rest = .noDeclaration rest := by
      unfold endingAt
      split
      · rename_i behind hread
        rcases exists_namesUnknown hleading.begins.skipGap_eq hread with
          ⟨head, behind', hrest, hunknown, -⟩
        exact absurd hrest (hknown head behind' hunknown)
      · rfl
    have hempty : rest.isEmpty = false := by simpa using hne
    rw [parseExpanded, hleading.declarations_eq, hend, hs, Place.isBehind_iff.mp hplace]
    simp only [hempty, Place.ofRest_append, Bool.not_false, if_true]
  | duplicateSet hleading hsets hnodup hmem =>
    rename_i items before after set
    have hnone : firstDuplicate? [] before = none := firstDuplicate?_eq_none.mpr ⟨by simp, hnodup⟩
    have hfirst : firstDuplicate? [] (items.map (·.2.set)) = some set.name :=
      firstDuplicate?_eq_some.mpr ⟨before, set, after, hsets, hnone, by simpa using hmem, rfl⟩
    rw [parseExpanded_of_declarations hleading.declarations_eq, hfirst]

/-- A text that is not parsed has a fault. -/
theorem exists_isFault {fault : Fault} (h : parseExpanded s = .error fault) :
    ∃ fault', IsFault s fault' := by
  rcases exists_leadingDeclarations s with ⟨items, rest, hleading⟩
  by_cases hunknown : ∃ head behind, NamesUnknown head behind ∧ rest = HeadLayout.text head behind
  · rcases hunknown with ⟨head, behind, hunknown, rfl⟩
    rcases hleading.begins.exists_append with ⟨before, hs⟩
    have hfront : s = (before ++ (head.name ++ (head.gapColon ++ ':' :: head.gapCategory))) ++
        (head.category ++ behind) := by
      rw [hs]
      simp only [HeadLayout.text, List.append_assoc, List.cons_append]
    exact ⟨_, IsFault.unknownCategory hleading hunknown hfront (Place.isBehind_iff.mpr rfl)⟩
  · have hknown : ∀ head behind, NamesUnknown head behind → rest ≠ HeadLayout.text head behind :=
      fun head behind hnames hrest => hunknown ⟨head, behind, hnames, hrest⟩
    by_cases hne : rest = []
    · rw [hne] at hleading
      rw [parseExpanded_of_declarations hleading.declarations_eq] at h
      cases hfirst : firstDuplicate? [] (items.map (·.2.set)) with
      | none => simp [hfirst] at h
      | some name =>
        rcases firstDuplicate?_eq_some.mp hfirst with ⟨before, set, after, hsets, hnone, hmem, -⟩
        have hnodup := (firstDuplicate?_eq_none.mp hnone).2
        exact ⟨_, IsFault.duplicateSet hleading hsets hnodup (by simpa using hmem)⟩
    · rcases hleading.begins.exists_append with ⟨before, hs⟩
      exact ⟨_, IsFault.expectedEnd hleading hknown hne hs (Place.isBehind_iff.mpr rfl)⟩

/-- What is reported of a text that is no vocabulary. A fault is reported just if it is the fault of
the text with its tabs expanded: an unknown category right behind the leading declarations; else the
end of the leading declarations, if the text goes on there; else the first name that occurred before.
The wording says what the fault is and, for the first two, at which character, in which line and in
which column, and it stands behind the name of its source if there is one. -/
theorem parse_eq_error_iff (s : Text) :
    (∀ fault, parse s = .error fault ↔ IsFault (s.expandTabs tabWidth) fault) ∧
      (∀ (place : Place) (found : Text),
        (Fault.unknownCategory place found).message =
          "unknown category, found " ++ found ++ "  " ++ place.message ∧
        (Fault.expectedEnd place found).message =
          "Expected end of text, found " ++ found ++ "  " ++ place.message ∧
        place.message = "(at char " ++ ofNat place.offset ++ "), (line:" ++ ofNat place.line ++
          ", col:" ++ ofNat place.column ++ ")") ∧
      (∀ name : Text, (Fault.duplicateSet name).message = "duplicate set: " ++ name) ∧
      ∀ fault : Fault, report fault.message none = fault.message ∧
        ∀ source : Text, report fault.message (some source) = source ++ ": " ++ fault.message := by
  refine ⟨?_, ?_, ?_, ?_⟩
  · intro fault
    constructor
    · intro h
      rcases exists_isFault h with ⟨fault', hfault⟩
      have hsame := hfault.parseExpanded_eq
      rw [parse] at h
      rw [h, Except.error.injEq] at hsame
      rwa [hsame]
    · exact IsFault.parseExpanded_eq
  · intro place found
    exact ⟨rfl, rfl, rfl⟩
  · intro name
    rfl
  · intro fault
    exact ⟨rfl, fun source => rfl⟩

/-- Tabs count as spaces, a brace that is not closed is no part of a declaration, and a category is
looked up before the body is read. -/
example : parse "a:type\x7b\x7d\n\tb:keyword\x7bx a:type\x7b\x7d" =
      .error (.expectedEnd ⟨17, 2, 9⟩ "'b'") ∧
    parse "a:type\x7b\x7d\n\tb : colour \x7b" =
      .error (.unknownCategory ⟨21, 2, 13⟩ "'colour'") := by
  decide

end Vocabulary

end MlogHighlight
