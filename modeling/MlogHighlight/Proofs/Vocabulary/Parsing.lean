import Mathlib.Data.List.Find
import Mathlib.Data.Set.Subsingleton
import MlogHighlight.Proofs.Vocabulary.Reading

/-!
# The texts that are vocabularies

A text is parsed to a vocabulary just if it is laid out as one, and there is only one way to see it
as laid out. Main facts:

* `Layout.unique`: a text has at most one layout;
* `parseExpanded_eq_ok_iff_layout`: a text without tabs is parsed if it has a layout with distinct
  names;
* `parse_iff_layout`: all texts, with their tabs expanded.
-/

namespace MlogHighlight.Vocabulary

open Text

/-! ## A text has one layout -/

section Sequence

variable {α : Type} {text : α → Text → Text} {fits : α → Text → Prop}

/-- Sequences of one text are the same if their elements are, and if no element begins where a
sequence ends. -/
theorem sequence_unique (hstops : ∀ a rest, fits a rest → Stops beginsGap (text a rest))
    (hunique : ∀ a a' rest rest', fits a rest → fits a' rest' → text a rest = text a' rest' →
      a = a' ∧ rest = rest')
    {items items' : List (Text × α)} {rest rest' : Text} (h : SequenceFits text fits items rest)
    (h' : SequenceFits text fits items' rest')
    (hend : ∀ a t, fits a t → skipGap rest ≠ text a t)
    (hend' : ∀ a t, fits a t → skipGap rest' ≠ text a t)
    (heq : sequenceText text items rest = sequenceText text items' rest') :
    items = items' ∧ rest = rest' := by
  induction items generalizing items' with
  | nil =>
    cases items' with
    | nil => exact ⟨rfl, heq⟩
    | cons item' items' =>
      -- the longer sequence would begin an element where the other one ends
      rcases h' with ⟨hgap, hitem, -⟩
      have hskip := skipGap_append hgap (hstops _ _ hitem)
      change rest = item'.1 ++ text item'.2 (sequenceText text items' rest') at heq
      rw [← heq] at hskip
      exact absurd hskip (hend _ _ hitem)
  | cons item items ih =>
    rcases h with ⟨hgap, hitem, hitems⟩
    cases items' with
    | nil =>
      have hskip := skipGap_append hgap (hstops _ _ hitem)
      change item.1 ++ text item.2 (sequenceText text items rest) = rest' at heq
      rw [heq] at hskip
      exact absurd hskip (hend' _ _ hitem)
    | cons item' items' =>
      rcases h' with ⟨hgap', hitem', hitems'⟩
      rcases hgap.unique hgap' (hstops _ _ hitem) (hstops _ _ hitem') heq with ⟨hgaps, htexts⟩
      rcases hunique _ _ _ _ hitem hitem' htexts with ⟨hitems'', hrests⟩
      rcases ih hitems hitems' hrests with ⟨rfl, hrest⟩
      exact ⟨by rw [Prod.ext hgaps hitems''], hrest⟩

end Sequence

/-- The words of a body end at the closing brace. -/
theorem ne_word_of_close {gap rest : Text} (h : IsGap gap ('\x7d' :: rest)) (w : WordLayout)
    (t : Text) (hw : w.Fits t) : skipGap (gap ++ '\x7d' :: rest) ≠ w.text t := by
  intro heq
  have hread := word?_text hw
  rw [← heq, skipGap_append h (stops_brace _ (by simp) rest), word?_close] at hread
  simp at hread

theorem BodyLayout.wordsText_unique {b b' : BodyLayout} {rest rest' : Text} (h : b.Fits rest)
    (h' : b'.Fits rest') (heq : b.wordsText rest = b'.wordsText rest') :
    b.words = b'.words ∧ b.gapClose = b'.gapClose ∧ rest = rest' := by
  rcases sequence_unique (fun _ _ => stops_word) (fun _ _ _ _ => WordLayout.unique) h.words h'.words
    (ne_word_of_close h.gapClose) (ne_word_of_close h'.gapClose) heq with ⟨hwords, hclose⟩
  rcases h.gapClose.unique h'.gapClose (stops_brace _ (by simp) rest) (stops_brace _ (by simp) rest')
    hclose with ⟨hgap, hrest⟩
  exact ⟨hwords, hgap, (List.cons.inj hrest).2⟩

theorem BodyLayout.bracesText_unique {b b' : BodyLayout} {rest rest' : Text} (h : b.Fits rest)
    (h' : b'.Fits rest') (heq : b.bracesText rest = b'.bracesText rest') :
    b.gapOpen = b'.gapOpen ∧ b.words = b'.words ∧ b.gapClose = b'.gapClose ∧ rest = rest' := by
  rcases h.gapOpen.unique h'.gapOpen (stops_brace _ (by simp) _) (stops_brace _ (by simp) _) heq with
    ⟨hgap, hwords⟩
  exact ⟨hgap, wordsText_unique h h' (List.cons.inj hwords).2⟩

/-- A transform is no brace. -/
theorem BodyLayout.text_ne_of_transform {b b' : BodyLayout} {rest rest' gap : Text}
    {t : Naming.Transform} (h : b.Fits rest) (h' : b'.Fits rest') (ht : b.transform = some (gap, t)) :
    gap ++ (t.name ++ b.bracesText rest) ≠ b'.bracesText rest' := by
  intro heq
  rcases (h.transform gap t ht).1.unique h'.gapOpen (stops_transform _ _)
    (stops_brace _ (by simp) _) heq with ⟨-, hname⟩
  have hread : transform? (t.name ++ b.bracesText rest) = some (t, b.bracesText rest) :=
    transform?_append (h.transform gap t ht).2
  rw [hname, transform?_brace] at hread
  simp at hread

/-- Two bodies of one text are the same body. -/
theorem BodyLayout.unique {b b' : BodyLayout} {rest rest' : Text} (h : b.Fits rest)
    (h' : b'.Fits rest') (heq : b.text rest = b'.text rest') : b = b' ∧ rest = rest' := by
  have hall : b.transform = b'.transform ∧ b.bracesText rest = b'.bracesText rest' := by
    unfold text at heq
    cases ht : b.transform with
    | none =>
      rw [ht] at heq
      cases ht' : b'.transform with
      | none =>
        rw [ht'] at heq
        exact ⟨rfl, heq⟩
      | some transform' =>
        rw [ht'] at heq
        exact absurd heq.symm (text_ne_of_transform h' h ht')
    | some transform =>
      rw [ht] at heq
      cases ht' : b'.transform with
      | none =>
        rw [ht'] at heq
        exact absurd heq (text_ne_of_transform h h' ht)
      | some transform' =>
        rw [ht'] at heq
        rcases (h.transform _ _ ht).1.unique (h'.transform _ _ ht').1 (stops_transform _ _)
          (stops_transform _ _) heq with ⟨hgap, hname⟩
        rcases transform_unique hname with ⟨htransform, hbraces⟩
        exact ⟨by rw [Prod.ext hgap htransform], hbraces⟩
  rcases hall with ⟨htransform, hbraces⟩
  rcases bracesText_unique h h' hbraces with ⟨hopen, hwords, hclose, hrest⟩
  cases b
  cases b'
  simp_all

theorem category_unique {c c' : Category} {rest rest' : Text} (h : Stops isCategoryChar rest)
    (h' : Stops isCategoryChar rest') (heq : c.name ++ rest = c'.name ++ rest') :
    c = c' ∧ rest = rest' := by
  rcases run_unique (all_category c) (all_category c') h h' heq with ⟨hname, hrest⟩
  have hcategory := Category.ofName?_name c
  rw [hname, Category.ofName?_name, Option.some.injEq] at hcategory
  exact ⟨hcategory.symm, hrest⟩

theorem name_unique {name name' rest rest' : Text} (h : isName name = true)
    (h' : isName name' = true) (hend : Stops isNameBody rest) (hend' : Stops isNameBody rest')
    (heq : name ++ rest = name' ++ rest') : name = name' ∧ rest = rest' := by
  have hread := name?_append h hend
  rw [heq, name?_append h' hend', Option.some.injEq, Prod.mk.injEq] at hread
  exact ⟨hread.1.symm, hread.2.symm⟩

/-- Two declarations of one text are the same declaration. -/
theorem DeclarationLayout.unique {d d' : DeclarationLayout} {rest rest' : Text} (h : d.Fits rest)
    (h' : d'.Fits rest') (heq : d.text rest = d'.text rest') : d = d' ∧ rest = rest' := by
  -- from left to right, each element fixes what is behind it
  rcases name_unique h.name h'.name h.nameEnd h'.nameEnd heq with ⟨hname, hbehindName⟩
  rcases h.gapColon.unique h'.gapColon (stops_colon _) (stops_colon _) hbehindName with
    ⟨hgapColon, hcolon⟩
  rcases h.gapCategory.unique h'.gapCategory (stops_category _ _) (stops_category _ _)
    (List.cons.inj hcolon).2 with ⟨hgapCategory, hbehindGap⟩
  rcases category_unique h.categoryEnd h'.categoryEnd hbehindGap with ⟨hcategory, hbody⟩
  rcases BodyLayout.unique h.body h'.body hbody with ⟨hbodies, hrest⟩
  cases d
  cases d'
  simp_all

/-- A text has at most one layout. -/
theorem Layout.unique {layout layout' : Layout} (h : layout.Fits) (h' : layout'.Fits)
    (heq : layout.text = layout'.text) : layout = layout' := by
  have hend : ∀ gap : Text, IsGap gap [] → ∀ (d : DeclarationLayout) t, d.Fits t →
      skipGap gap ≠ d.text t := by
    intro gap hgap d t hd hskip
    have hlast := skipGap_append hgap stops_nil
    have hlength := length_lt_declaration hd
    rw [List.append_nil] at hlast
    rw [← hskip, hlast] at hlength
    simp at hlength
  rcases sequence_unique (fun _ _ hd => stops_name hd.name _)
    (fun _ _ _ _ => DeclarationLayout.unique) h.declarations h'.declarations (hend _ h.lastGap)
    (hend _ h'.lastGap) heq with ⟨hall, hlast⟩
  cases layout
  cases layout'
  simp_all

/-! ## Parsing -/

theorem firstDuplicate?_of_mem {seen : List Text} {set : VocabularySet} (h : set.name ∈ seen)
    (sets : Vocabulary) : firstDuplicate? seen (set :: sets) = some set.name := if_pos h

theorem firstDuplicate?_of_notMem {seen : List Text} {set : VocabularySet} (h : set.name ∉ seen)
    (sets : Vocabulary) :
    firstDuplicate? seen (set :: sets) = firstDuplicate? (set.name :: seen) sets := if_neg h

/-- There is no duplicate if the names are new and distinct. -/
theorem firstDuplicate?_eq_none {seen : List Text} {sets : Vocabulary} :
    firstDuplicate? seen sets = none ↔
      (∀ set ∈ sets, set.name ∉ seen) ∧ (sets.map (·.name)).Nodup := by
  induction sets generalizing seen with
  | nil =>
    have hnil : firstDuplicate? seen [] = none := rfl
    simp [hnil]
  | cons set sets ih =>
    by_cases hseen : set.name ∈ seen
    · rw [firstDuplicate?_of_mem hseen]
      constructor
      · intro h
        simp at h
      · intro h
        exact absurd hseen (h.1 set (List.mem_cons_self ..))
    · rw [firstDuplicate?_of_notMem hseen, ih, List.map_cons, List.nodup_cons]
      constructor
      · intro h
        rcases h with ⟨hnew, hnodup⟩
        refine ⟨?_, ?_, hnodup⟩
        · intro other hother
          rcases List.mem_cons.mp hother with rfl | hother
          · exact hseen
          · exact fun hmem => hnew other hother (List.mem_cons_of_mem _ hmem)
        · intro hmem
          rcases List.mem_map.mp hmem with ⟨other, hother, hname⟩
          exact hnew other hother (by rw [hname]; exact List.mem_cons_self ..)
      · intro h
        rcases h with ⟨hnew, hname, hnodup⟩
        refine ⟨?_, hnodup⟩
        intro other hother hmem
        rcases List.mem_cons.mp hmem with heq | hmem
        · exact hname (List.mem_map.mpr ⟨other, hother, heq⟩)
        · exact hnew other (List.mem_cons_of_mem _ hother) hmem

/-- The first duplicate of two lists: in the second one, the names of the first count as seen. -/
theorem firstDuplicate?_append (seen : List Text) (sets sets' : Vocabulary) :
    firstDuplicate? seen (sets ++ sets') = (firstDuplicate? seen sets).or
      (firstDuplicate? ((sets.map (·.name)).reverse ++ seen) sets') := by
  induction sets generalizing seen with
  | nil => rfl
  | cons set sets ih =>
    by_cases hseen : set.name ∈ seen
    · rw [List.cons_append, firstDuplicate?_of_mem hseen, firstDuplicate?_of_mem hseen]
      rfl
    · rw [List.cons_append, firstDuplicate?_of_notMem hseen, firstDuplicate?_of_notMem hseen, ih,
        List.map_cons, List.reverse_cons, List.append_assoc]
      rfl

/-- Among sets with distinct names, a duplicate has a name that was seen before them. -/
theorem firstDuplicate?_of_nodup {sets : Vocabulary} (h : (sets.map (·.name)).Nodup)
    (seen : List Text) :
    firstDuplicate? seen sets = (sets.find? fun set => set.name ∈ seen).map (·.name) := by
  induction sets generalizing seen with
  | nil => rfl
  | cons set sets ih =>
    rw [List.map_cons, List.nodup_cons] at h
    by_cases hseen : set.name ∈ seen
    · rw [firstDuplicate?_of_mem hseen, List.find?_cons_of_pos (by simpa using hseen)]
      rfl
    · -- the name of the first set is no longer new, but no other set has it
      have hsame : sets.find? (fun other => other.name ∈ set.name :: seen) =
          sets.find? fun other => other.name ∈ seen := by
        apply List.find?_congr
        intro other hother
        have hne : other.name ≠ set.name :=
          fun heq => h.1 (List.mem_map.mpr ⟨other, hother, heq⟩)
        simp [hne]
      rw [firstDuplicate?_of_notMem hseen, ih h.2, hsame, List.find?_cons_of_neg (by simpa using hseen)]

/-- The first duplicate is the name of a set that was seen before, while no set before that one is a
duplicate. -/
theorem firstDuplicate?_eq_some {seen : List Text} {sets : Vocabulary} {name : Text} :
    firstDuplicate? seen sets = some name ↔ ∃ before set after, sets = before ++ set :: after ∧
      firstDuplicate? seen before = none ∧ set.name ∈ (before.map (·.name)).reverse ++ seen ∧
      set.name = name := by
  constructor
  · intro h
    induction sets generalizing seen with
    | nil =>
      have hnil : firstDuplicate? seen [] = none := rfl
      simp [hnil] at h
    | cons set sets ih =>
      by_cases hseen : set.name ∈ seen
      · rw [firstDuplicate?_of_mem hseen, Option.some.injEq] at h
        exact ⟨[], set, sets, rfl, rfl, by simpa using hseen, h⟩
      · rw [firstDuplicate?_of_notMem hseen] at h
        rcases ih h with ⟨before, other, after, rfl, hnone, hmem, hname⟩
        refine ⟨set :: before, other, after, rfl, ?_, ?_, hname⟩
        · rw [firstDuplicate?_of_notMem hseen, hnone]
        · rw [List.map_cons, List.reverse_cons, List.append_assoc]
          exact hmem
  · rintro ⟨before, set, after, rfl, hnone, hmem, rfl⟩
    rw [firstDuplicate?_append, hnone, Option.none_or, firstDuplicate?_of_mem hmem]

/-- A text that is declarations all through is parsed unless there is a duplicate. -/
theorem parseExpanded_of_declarations {s : Text} {sets : Vocabulary}
    (h : declarations s = (sets, .noDeclaration [])) :
    parseExpanded s = match firstDuplicate? [] sets with
      | some name => .error (.duplicateSet name)
      | none => .ok sets := by
  rw [parseExpanded, h]
  rfl

/-- A text is parsed if all of it is declarations with distinct names. -/
theorem parseExpanded_eq_ok_iff_read {s : Text} {sets : Vocabulary} : parseExpanded s = .ok sets ↔
    declarations s = (sets, .noDeclaration []) ∧ (sets.map (·.name)).Nodup := by
  have hdistinct : firstDuplicate? [] sets = none ↔ (sets.map (·.name)).Nodup := by
    rw [firstDuplicate?_eq_none]
    simp
  constructor
  · intro h
    unfold parseExpanded at h
    split at h
    · simp at h
    · rename_i found rest hread
      split at h
      · simp at h
      · rename_i hempty
        split at h
        · simp at h
        · rename_i hnone
          obtain rfl : found = sets := by simpa using h
          obtain rfl : rest = [] := by simpa using hempty
          exact ⟨hread, hdistinct.mp hnone⟩
  · rintro ⟨hread, hnodup⟩
    rw [parseExpanded_of_declarations hread, hdistinct.mpr hnodup]

/-- All declarations of a layout are read, given as much fuel as its text has characters. -/
theorem Layout.Fits.declarationsWithin_eq {layout : Layout} (h : layout.Fits) {fuel : Nat}
    (hfuel : layout.text.length ≤ fuel) :
    declarationsWithin fuel layout.text = (layout.vocabulary, .noDeclaration []) := by
  have hlength : layout.declarations.length ≤ layout.text.length :=
    length_le_sequenceText (fun _ _ => length_lt_declaration) h.declarations
  exact declarationsWithin_text h.declarations h.lastGap (hlength.trans hfuel)

/-- A text without tabs is parsed if it has a layout with distinct names. -/
theorem parseExpanded_eq_ok_iff_layout {s : Text} {sets : Vocabulary} : parseExpanded s = .ok sets ↔
    ∃ layout : Layout, layout.Fits ∧ layout.text = s ∧
      (layout.vocabulary.map (·.name)).Nodup ∧ layout.vocabulary = sets := by
  rw [parseExpanded_eq_ok_iff_read]
  constructor
  · intro h
    rcases h with ⟨hread, hnodup⟩
    rcases exists_declarations hread with ⟨items, lastGap, hs, hitems, hlast, hsets⟩
    refine ⟨⟨items, lastGap⟩, ⟨hitems, hlast⟩, hs.symm, ?_, hsets⟩
    rw [Layout.vocabulary, hsets]
    exact hnodup
  · intro h
    rcases h with ⟨layout, hfits, rfl, hnodup, rfl⟩
    exact ⟨hfits.declarationsWithin_eq (Nat.le_refl _), hnodup⟩

/-- Exactly the texts that are laid out as declarations with distinct names, once their tabs are
expanded, are parsed. What comes out are the sets that are declared, in order; there is only one way
to see a text as laid out. -/
theorem parse_iff_layout (s : Text) :
    (∀ sets, parse s = .ok sets ↔
      ∃ layout : Layout, layout.Fits ∧ layout.text = s.expandTabs tabWidth ∧
        (layout.vocabulary.map (·.name)).Nodup ∧ layout.vocabulary = sets) ∧
      {layout : Layout | layout.Fits ∧ layout.text = s.expandTabs tabWidth}.Subsingleton := by
  constructor
  · intro sets
    exact parseExpanded_eq_ok_iff_layout
  · intro layout h layout' h'
    exact Layout.unique h.1 h'.1 (h.2.trans h'.2.symm)

/-- Elements may touch, and a comment may stand in any gap. -/
example : parse "a:type sigil\x7bx\"y z\"#\n\x7d" = .ok [⟨"a", "type", "sigil", ["x", "y z"]⟩] := by
  decide

/-- Between quotes tabs are expanded as well, and escapes are decoded; a bare word has none. -/
example : parse "k\t:keyword\x7b\"a\tb\\t\\x32\\0\\q\" c\\t\x7d" =
    .ok [⟨"k", "keyword", "none", ["a     b\t2\x00\\q", "c\\t"]⟩] := by
  decide +kernel

end MlogHighlight.Vocabulary
