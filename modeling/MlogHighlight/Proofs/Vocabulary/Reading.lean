import MlogHighlight.Proofs.Vocabulary.Element

/-!
# Reading a layout

The parser reads words, bodies and declarations off a layout that fits, and all that it reads is
laid out in that way. Every element is taken as long as it can be and nothing is tried again, so
both directions go along the layout from left to right. Main facts:

* `wordsWithin_text`, `exists_words`: reading words;
* `body?_text`, `exists_body`: reading what follows the category;
* `declaration_head`, `exists_head`: reading what a declaration begins with;
* `declaration_text`, `exists_declaration`: reading a declaration;
* `declarationsWithin_sequence`: reading declarations in front of any text;
* `declarationsWithin_text`, `exists_declarations`: reading a whole text.
-/

namespace MlogHighlight.Vocabulary

open Text

/-! ## Sequences -/

section Sequence

variable {α : Type} {text : α → Text → Text} {fits : α → Text → Prop}

/-- A sequence has at most as many elements as its text has characters, if no element is empty. -/
theorem length_add_le_sequenceText
    (hpos : ∀ a rest, fits a rest → rest.length < (text a rest).length)
    {items : List (Text × α)} {rest : Text} (h : SequenceFits text fits items rest) :
    items.length + rest.length ≤ (sequenceText text items rest).length := by
  induction items with
  | nil => simp [sequenceText]
  | cons item items ih =>
    rcases h with ⟨-, hitem, hitems⟩
    have hlength := hpos _ _ hitem
    have hle := ih hitems
    simp only [sequenceText, List.length_append, List.length_cons]
    omega

theorem length_le_sequenceText (hpos : ∀ a rest, fits a rest → rest.length < (text a rest).length)
    {items : List (Text × α)} {rest : Text} (h : SequenceFits text fits items rest) :
    items.length ≤ (sequenceText text items rest).length := by
  have hle := length_add_le_sequenceText hpos h
  omega

end Sequence

/-! ## Words -/

theorem length_lt_word {w : WordLayout} {rest : Text} (h : w.Fits rest) :
    rest.length < (w.text rest).length := by
  cases w with
  | quoted body =>
    simp only [WordLayout.text, List.length_cons, List.length_append]
    omega
  | bare word =>
    have hpos := List.length_pos_iff.mpr h.1
    rw [WordLayout.text, List.length_append]
    omega

/-- Words that fit are read. -/
theorem wordsWithin_text {layout : List (Text × WordLayout)} {rest : Text} {fuel : Nat}
    (h : SequenceFits WordLayout.text WordLayout.Fits layout rest)
    (hend : word? (skipGap rest) = none) (hfuel : layout.length ≤ fuel) :
    wordsWithin fuel (sequenceText WordLayout.text layout rest) =
      (layout.map (·.2.value), rest) := by
  -- along the layout, with at least one unit of fuel for each word
  induction layout generalizing fuel with
  | nil =>
    cases fuel with
    | zero => rfl
    | succ fuel => simp [wordsWithin, sequenceText, hend]
  | cons item layout ih =>
    rcases h with ⟨hgap, hword, hlayout⟩
    cases fuel with
    | zero => simp at hfuel
    | succ fuel =>
      have hrest := ih hlayout (by simpa using hfuel)
      simp only [wordsWithin, sequenceText, skipGap_append hgap (stops_word hword), word?_text hword,
        hrest, List.map_cons]

/-- What is read as words is laid out. -/
theorem exists_words (fuel : Nat) (s : Text) :
    ∃ layout, s = sequenceText WordLayout.text layout (wordsWithin fuel s).2 ∧
      SequenceFits WordLayout.text WordLayout.Fits layout (wordsWithin fuel s).2 ∧
      layout.map (·.2.value) = (wordsWithin fuel s).1 := by
  -- a reader that runs out of fuel has read fewer words, which are laid out all the same
  induction fuel generalizing s with
  | zero => exact ⟨[], rfl, trivial, rfl⟩
  | succ fuel ih =>
    simp only [wordsWithin]
    split
    · exact ⟨[], rfl, trivial, rfl⟩
    · rename_i value t hword
      rcases exists_gap s with ⟨gap, hs, hgap, -⟩
      rcases exists_word hword with ⟨w, hw, hfits, hvalue⟩
      rcases ih t with ⟨layout, ht, hlayout, hvalues⟩
      rw [hw] at hs hgap
      refine ⟨(gap, w) :: layout, ?_, ⟨?_, ?_, hlayout⟩, ?_⟩
      · rw [sequenceText, ← ht]
        exact hs
      · rw [← ht]
        exact hgap
      · rw [← ht]
        exact hfits
      · rw [List.map_cons, hvalue, hvalues]

/-! ## Bodies -/

theorem stops_brace (mark : Char) (hmark : mark ∈ ['\x7b', '\x7d']) (s : Text) :
    Stops beginsGap (mark :: s) := by
  simp only [List.mem_cons, List.not_mem_nil, or_false] at hmark
  rcases hmark with rfl | rfl <;> exact stops_cons.mpr (by decide)

theorem word?_close (s : Text) : word? ('\x7d' :: s) = none :=
  word?_eq_none (by simp) (stops_cons.mpr (by decide))

/-- A body that fits is read. -/
theorem body?_text {b : BodyLayout} {rest : Text} (h : b.Fits rest) :
    body? (b.text rest) = some ((b.transformValue, b.values), rest) := by
  have hclose : skipGap (b.gapClose ++ '\x7d' :: rest) = '\x7d' :: rest :=
    skipGap_append h.gapClose (stops_brace _ (by simp) rest)
  have hopen : skipGap (b.bracesText rest) = '\x7b' :: b.wordsText rest :=
    skipGap_append h.gapOpen (stops_brace _ (by simp) _)
  have hwords : words (b.wordsText rest) = (b.values, b.gapClose ++ '\x7d' :: rest) := by
    apply wordsWithin_text h.words
    · rw [hclose, word?_close]
    · exact length_le_sequenceText (fun _ _ => length_lt_word) h.words
  have htransform : (transform? (skipGap (b.text rest))).getD (.none, b.text rest) =
      (b.transformValue, b.bracesText rest) := by
    have hfits := h.transform
    unfold BodyLayout.text BodyLayout.transformValue
    cases htransform : b.transform with
    | none =>
      simp only [hopen, transform?_brace, Option.getD_none, Option.map_none]
    | some transform =>
      rcases hfits transform.1 transform.2 htransform with ⟨hgap, hend⟩
      simp only [skipGap_append hgap (stops_transform _ _), transform?_append hend, Option.getD_some,
        Option.map_some]
  unfold body?
  simp only [htransform, hopen, mark?_cons, hwords, hclose, Option.bind_eq_bind, Option.bind_some,
    Option.pure_def]

/-- What is read as a body is one that fits. -/
theorem exists_body {s rest : Text} {transform : Naming.Transform} {values : List Text}
    (h : body? s = some ((transform, values), rest)) :
    ∃ b : BodyLayout, s = b.text rest ∧ b.Fits rest ∧ b.transformValue = transform ∧
      b.values = values := by
  simp only [body?, Option.bind_eq_bind, Option.bind_eq_some_iff, Option.pure_def, Option.some.injEq,
    Prod.mk.injEq] at h
  rcases h with ⟨inside, hopen, behind, hclose, ⟨htransform, hvalues⟩, rfl⟩
  rcases exists_gap ((transform? (skipGap s)).getD (.none, s)).2 with ⟨gapOpen, hbraces, hgapOpen, -⟩
  rcases exists_words inside.length inside with ⟨layout, hinside, hwords, hlayout⟩
  rcases exists_gap (words inside).2 with ⟨gapClose, hbehind, hgapClose, -⟩
  rw [eq_cons_of_mark? hopen] at hbraces hgapOpen
  rw [eq_cons_of_mark? hclose] at hbehind hgapClose
  change inside = sequenceText WordLayout.text layout (words inside).2 at hinside
  change SequenceFits WordLayout.text WordLayout.Fits layout (words inside).2 at hwords
  rw [hbehind] at hinside hwords
  rw [hinside] at hbraces hgapOpen
  have hvalues' := hlayout.trans hvalues
  -- without a transform, the gap in front of the brace is skipped a second time
  cases hfound : transform? (skipGap s) with
  | none =>
    rw [hfound, Option.getD_none] at hbraces htransform
    refine ⟨⟨none, gapOpen, layout, gapClose⟩, hbraces, ?_, htransform, hvalues'⟩
    exact ⟨by simp, hgapOpen, hwords, hgapClose⟩
  | some found =>
    rw [hfound, Option.getD_some] at hbraces htransform
    rcases exists_gap s with ⟨gap, hs, hgap, -⟩
    rcases exists_transform hfound with ⟨hname, hend⟩
    rw [hname] at hs hgap
    rw [hbraces] at hs hgap hend
    refine ⟨⟨some (gap, found.1), gapOpen, layout, gapClose⟩, hs, ?_, htransform, hvalues'⟩
    refine ⟨?_, hgapOpen, hwords, hgapClose⟩
    intro gap' t ht
    rcases Prod.mk.inj (Option.some.inj ht) with ⟨rfl, rfl⟩
    exact ⟨hgap, hend⟩

/-! ## Declarations -/

theorem name?_append {name rest : Text} (hname : isName name = true) (hrest : Stops isNameBody rest) :
    name? (name ++ rest) = some (name, rest) := by
  cases name with
  | nil => simp [isName] at hname
  | cons c s =>
    rw [isName, Bool.and_eq_true] at hname
    rw [List.cons_append, name?, if_pos hname.1, takeWhile_append_of_run hname.2 hrest,
      dropWhile_append_of_run hname.2 hrest]

theorem exists_name {s name rest : Text} (h : name? s = some (name, rest)) :
    s = name ++ rest ∧ isName name = true ∧ Stops isNameBody rest := by
  cases s with
  | nil => simp [name?] at h
  | cons c s =>
    simp only [name?] at h
    split at h
    · rename_i hc
      rcases Prod.mk.inj (Option.some.inj h) with ⟨rfl, rfl⟩
      refine ⟨?_, ?_, stops_dropWhile _ _⟩
      · rw [List.cons_append, List.takeWhile_append_dropWhile]
      · rw [isName, hc, all_takeWhile]
        rfl
    · simp at h

/-- A name does not begin with a gap. -/
theorem stops_name {name : Text} (h : isName name = true) (rest : Text) :
    Stops beginsGap (name ++ rest) := by
  cases name with
  | nil => simp [isName] at h
  | cons c s =>
    rw [isName, Bool.and_eq_true] at h
    exact avoidsGaps_isNameHead.stops h.1 (s ++ rest)

theorem all_category (c : Category) : c.name.all isCategoryChar = true := by
  cases c <;> decide

theorem category_ne_nil (c : Category) : c.name ≠ [] := by
  cases c <;> decide

/-- A category does not begin with a gap. -/
theorem stops_category (c : Category) (rest : Text) : Stops beginsGap (c.name ++ rest) :=
  avoidsGaps_isCategoryChar.stops_append_of_all (category_ne_nil c) (all_category c) rest

theorem stops_colon (rest : Text) : Stops beginsGap (':' :: rest) := stops_cons.mpr (by decide)

/-- What is read behind a head that fits: nothing if there is no such category, or else a body. -/
theorem declaration_head {gap rest : Text} {head : HeadLayout} (hgap : IsGap gap (head.text rest))
    (h : head.Fits rest) :
    declaration (gap ++ head.text rest) =
      if (Category.ofName? head.category).isNone then .unknownCategory (head.category ++ rest)
      else match body? rest with
        | none => .mismatch
        | some ((transform, words), behind) =>
          .declared ⟨head.name, head.category, transform.name, words⟩ behind := by
  have hname : name? (skipGap (gap ++ head.text rest)) = some (head.name, head.gapColon ++
      ':' :: (head.gapCategory ++ (head.category ++ rest))) := by
    rw [skipGap_append hgap (stops_name h.name _)]
    exact name?_append h.name h.nameEnd
  have hcolon : skipGap (head.gapColon ++ ':' :: (head.gapCategory ++ (head.category ++ rest))) =
      ':' :: (head.gapCategory ++ (head.category ++ rest)) :=
    skipGap_append h.gapColon (stops_colon _)
  have hcategory : skipGap (head.gapCategory ++ (head.category ++ rest)) = head.category ++ rest :=
    skipGap_append h.gapCategory
      (avoidsGaps_isCategoryChar.stops_append_of_all h.category_ne_nil h.category_all rest)
  have hempty : head.category.isEmpty = false := by
    simpa using h.category_ne_nil
  unfold declaration
  simp only [hname, hcolon, mark?_cons, hcategory,
    takeWhile_append_of_run h.category_all h.categoryEnd,
    dropWhile_append_of_run h.category_all h.categoryEnd, hempty]
  rfl

/-- Only a head that fits can be read as a declaration or as an unknown category. -/
theorem exists_head {s : Text} (h : declaration s ≠ .mismatch) :
    ∃ gap head rest, s = gap ++ HeadLayout.text head rest ∧ IsGap gap (head.text rest) ∧
      head.Fits rest := by
  simp only [declaration] at h
  split at h
  · simp at h
  · rename_i name afterName hname
    split at h
    · simp at h
    · rename_i afterColon hcolon
      split at h
      · simp at h
      · -- each element with the gap in front of it, from the last one to the first
        rename_i hempty
        rcases exists_name hname with ⟨hs, hisName, hnameEnd⟩
        rcases exists_gap s with ⟨gap, hgap, hisGap, -⟩
        rcases exists_gap afterName with ⟨gapColon, hgapColon, hisGapColon, -⟩
        rcases exists_gap afterColon with ⟨gapCategory, hgapCategory, hisGapCategory, -⟩
        have hsplit : skipGap afterColon = (skipGap afterColon).takeWhile isCategoryChar ++
            (skipGap afterColon).dropWhile isCategoryChar := List.takeWhile_append_dropWhile.symm
        rw [hsplit] at hgapCategory hisGapCategory
        rw [eq_cons_of_mark? hcolon, hgapCategory] at hgapColon hisGapColon
        rw [hs, hgapColon] at hgap hisGap
        rw [hgapColon] at hnameEnd
        refine ⟨gap, ⟨name, gapColon, gapCategory, (skipGap afterColon).takeWhile isCategoryChar⟩,
          (skipGap afterColon).dropWhile isCategoryChar, hgap, hisGap, ?_⟩
        exact ⟨hisName, hnameEnd, hisGapColon, hisGapCategory, by simpa using hempty,
          all_takeWhile _ _, stops_dropWhile _ _⟩

theorem DeclarationLayout.fits_iff {d : DeclarationLayout} {rest : Text} :
    d.Fits rest ↔ d.head.Fits (d.body.text rest) ∧ d.body.Fits rest := by
  constructor
  · intro h
    exact ⟨⟨h.name, h.nameEnd, h.gapColon, h.gapCategory, category_ne_nil _, all_category _,
      h.categoryEnd⟩, h.body⟩
  · rintro ⟨h, hbody⟩
    exact ⟨h.name, h.nameEnd, h.gapColon, h.gapCategory, h.categoryEnd, hbody⟩

/-- A declaration that fits is read. -/
theorem declaration_text {gap rest : Text} {d : DeclarationLayout} (hgap : IsGap gap (d.text rest))
    (h : d.Fits rest) : declaration (gap ++ d.text rest) = .declared d.set rest := by
  have hhead : d.head.Fits (d.body.text rest) := (DeclarationLayout.fits_iff.mp h).1
  have hread := declaration_head hgap hhead
  rw [body?_text h.body, DeclarationLayout.head, Category.ofName?_name] at hread
  exact hread

/-- What is read as a declaration is one that fits. -/
theorem exists_declaration {s rest : Text} {set : VocabularySet}
    (h : declaration s = .declared set rest) :
    ∃ gap d, s = gap ++ DeclarationLayout.text d rest ∧ IsGap gap (d.text rest) ∧ d.Fits rest ∧
      d.set = set := by
  have hread : declaration s ≠ .mismatch := by
    rw [h]
    simp
  rcases exists_head hread with ⟨gap, head, behind, rfl, hgap, hhead⟩
  rw [declaration_head hgap hhead] at h
  split at h
  · simp at h
  · rename_i hknown
    split at h
    · simp at h
    · rename_i transform values rest' hbody
      rcases Reading.declared.inj h with ⟨hset, rfl⟩
      rcases Option.ne_none_iff_exists'.mp (by simpa using hknown) with ⟨c, hc⟩
      have hcategory := Category.name_of_ofName? hc
      rcases exists_body hbody with ⟨b, rfl, hfits, htransform, hvalues⟩
      have hsame : DeclarationLayout.head ⟨head.name, head.gapColon, head.gapCategory, c, b⟩ = head := by
        rw [DeclarationLayout.head, hcategory]
      rw [← hsame] at hgap hhead ⊢
      refine ⟨gap, ⟨head.name, head.gapColon, head.gapCategory, c, b⟩, rfl, hgap,
        DeclarationLayout.fits_iff.mpr ⟨hhead, hfits⟩, ?_⟩
      rw [← hset, DeclarationLayout.set, htransform, hvalues, hcategory]

/-- What is read as an unknown category stands where a head ends. -/
theorem exists_unknownCategory {s rest : Text} (h : declaration s = .unknownCategory rest) :
    ∃ gap head behind, s = gap ++ HeadLayout.text head behind ∧ IsGap gap (head.text behind) ∧
      head.Fits behind ∧ Category.ofName? head.category = none ∧ rest = head.category ++ behind := by
  have hread : declaration s ≠ .mismatch := by
    rw [h]
    simp
  rcases exists_head hread with ⟨gap, head, behind, rfl, hgap, hhead⟩
  rw [declaration_head hgap hhead] at h
  split at h
  · rename_i hunknown
    exact ⟨gap, head, behind, rfl, hgap, hhead, by simpa using hunknown,
      (Reading.unknownCategory.inj h).symm⟩
  · split at h
    · simp at h
    · simp at h

/-! ## Whole texts -/

theorem length_lt_body {b : BodyLayout} {rest : Text} (h : b.Fits rest) :
    rest.length < (b.text rest).length := by
  have hwords : b.words.length + (b.gapClose ++ '\x7d' :: rest).length ≤ (b.wordsText rest).length :=
    length_add_le_sequenceText (fun _ _ => length_lt_word) h.words
  have hbraces : rest.length < (b.bracesText rest).length := by
    rw [List.length_append, List.length_cons] at hwords
    rw [BodyLayout.bracesText, List.length_append, List.length_cons]
    omega
  unfold BodyLayout.text
  split
  · exact hbraces
  · simp only [List.length_append]
    omega

theorem length_lt_declaration {d : DeclarationLayout} {rest : Text} (h : d.Fits rest) :
    rest.length < (d.text rest).length := by
  have hbody := length_lt_body h.body
  simp only [DeclarationLayout.text, DeclarationLayout.categoryText, List.length_append,
    List.length_cons]
  omega

/-- A gap in front of a declaration makes no difference. -/
theorem declaration_of_skipGap {s t : Text} (h : skipGap s = skipGap t) :
    declaration s = declaration t := by
  rw [declaration, h, declaration]

theorem declarationsWithin_of_skipGap {s t : Text} (h : skipGap s = skipGap t) (fuel : Nat) :
    declarationsWithin fuel s = declarationsWithin fuel t := by
  cases fuel with
  | zero => rw [declarationsWithin, h, declarationsWithin]
  | succ fuel => rw [declarationsWithin, declaration_of_skipGap h, h, declarationsWithin]

/-- Declarations that fit are read, and then the text behind them with what is left of the fuel. -/
theorem declarationsWithin_sequence {layout : List (Text × DeclarationLayout)} {rest : Text}
    {fuel : Nat} (h : SequenceFits DeclarationLayout.text DeclarationLayout.Fits layout rest)
    (hfuel : layout.length ≤ fuel) :
    declarationsWithin fuel (sequenceText DeclarationLayout.text layout rest) =
      (layout.map (·.2.set) ++ (declarationsWithin (fuel - layout.length) rest).1,
        (declarationsWithin (fuel - layout.length) rest).2) := by
  induction layout generalizing fuel with
  | nil => rfl
  | cons item layout ih =>
    rcases h with ⟨hgap, hdeclaration, hlayout⟩
    cases fuel with
    | zero => simp at hfuel
    | succ fuel =>
      have hrest := ih hlayout (by simpa using hfuel)
      simp only [declarationsWithin, sequenceText, declaration_text hgap hdeclaration, hrest,
        List.map_cons, List.length_cons, Nat.add_sub_add_right, List.cons_append]

/-- Declarations that fit are read, and nothing is left over. -/
theorem declarationsWithin_text {layout : List (Text × DeclarationLayout)} {lastGap : Text}
    {fuel : Nat} (h : SequenceFits DeclarationLayout.text DeclarationLayout.Fits layout lastGap)
    (hlast : IsGap lastGap []) (hfuel : layout.length ≤ fuel) :
    declarationsWithin fuel (sequenceText DeclarationLayout.text layout lastGap) =
      (layout.map (·.2.set), .noDeclaration []) := by
  have hend : skipGap lastGap = [] := by
    have hskip := skipGap_append hlast stops_nil
    rwa [List.append_nil] at hskip
  have hnone : declaration lastGap = .mismatch := by
    simp [declaration, hend, name?]
  have hbehind : ∀ fuel, declarationsWithin fuel lastGap = ([], .noDeclaration []) := by
    intro fuel
    cases fuel with
    | zero => simp [declarationsWithin, hend]
    | succ fuel => simp [declarationsWithin, hnone, hend]
  rw [declarationsWithin_sequence h hfuel, hbehind, List.append_nil]

/-- What is read as declarations is laid out, if nothing is left over. -/
theorem exists_declarations {fuel : Nat} {s : Text} {sets : Vocabulary}
    (h : declarationsWithin fuel s = (sets, .noDeclaration [])) :
    ∃ layout lastGap, s = sequenceText DeclarationLayout.text layout lastGap ∧
      SequenceFits DeclarationLayout.text DeclarationLayout.Fits layout lastGap ∧
      IsGap lastGap [] ∧ layout.map (·.2.set) = sets := by
  have hlast : ∀ t : Text, skipGap t = [] → IsGap t [] := by
    intro t ht
    rcases exists_gap t with ⟨gap, hgap, hisGap, -⟩
    rw [ht, List.append_nil] at hgap
    rw [ht] at hisGap
    rwa [hgap]
  induction fuel generalizing s sets with
  | zero =>
    rcases Prod.mk.inj h with ⟨rfl, hrest⟩
    exact ⟨[], s, rfl, trivial, hlast s (Ending.noDeclaration.inj hrest), rfl⟩
  | succ fuel ih =>
    simp only [declarationsWithin] at h
    split at h
    · rename_i set t hdeclaration
      rcases Prod.mk.inj h with ⟨rfl, hending⟩
      rcases exists_declaration hdeclaration with ⟨gap, d, hs, hgap, hfits, rfl⟩
      rcases ih (Prod.ext rfl hending) with ⟨layout, lastGap, ht, hlayout, hlastGap, hsets⟩
      refine ⟨(gap, d) :: layout, lastGap, ?_, ⟨?_, ?_, hlayout⟩, hlastGap, ?_⟩
      · rw [sequenceText, ← ht]
        exact hs
      · rw [← ht]
        exact hgap
      · rw [← ht]
        exact hfits
      · rw [List.map_cons, hsets]
    · simp at h
    · rcases Prod.mk.inj h with ⟨rfl, hrest⟩
      exact ⟨[], s, rfl, trivial, hlast s (Ending.noDeclaration.inj hrest), rfl⟩

end MlogHighlight.Vocabulary
