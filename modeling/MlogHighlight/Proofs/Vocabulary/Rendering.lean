import MlogHighlight.Proofs.TabStops
import MlogHighlight.Proofs.Vocabulary.Escape
import MlogHighlight.Proofs.Vocabulary.Parsing

/-!
# Writing a vocabulary down

A vocabulary can be written down in many ways: a word may stand between quotes or not, the transform
`none` may be left out, and gaps may be as long as they like. A *rendering* is put together from left
to right by such choices, none of which looks at what follows; in this it differs from a layout,
which is told from the text that is there. Main facts:

* `Rendered.expandTabs`: a rendering whose tabs are expanded is a rendering of the same sets;
* `Rendered.exists_layout`: a rendering is laid out as the sets that were written down;
* `parse_of_rendered`: so it is parsed to these sets.
-/

namespace MlogHighlight

/-- May the character stand between quotes, and stand for itself there? -/
def Vocabulary.isPlainChar (c : Char) : Bool := c ∉ ['"', '\\', '\t', '\n', '\r']

/-- The set can be written down: its name is one, its category and its transform exist, and all its
words may stand between quotes. -/
structure VocabularySet.Printable (set : VocabularySet) : Prop extends set.Usable where
  name : Vocabulary.isName set.name = true
  words : ∀ word ∈ set.words, word.all Vocabulary.isPlainChar = true

namespace Vocabulary

open Text

/-! ## Renderings -/

/-- A gap between two elements: white space and comments, each with the line feed that ends it. -/
inductive Gap : Text → Prop where
  | nil : Gap []
  | blank (c : Char) (gap : Text) : isGapChar c = true → Gap gap → Gap (c :: gap)
  | comment (words gap : Text) : '\n' ∉ words → Gap gap → Gap ('#' :: words ++ '\n' :: gap)

/-- The gap behind the last element. The line feed of its last comment may be missing. -/
inductive LastGap : Text → Prop where
  | ended (gap : Text) : Gap gap → LastGap gap
  | comment (gap words : Text) : Gap gap → '\n' ∉ words → LastGap (gap ++ '#' :: words)

/-- Words in order, each as it is or between quotes. Between two bare words there is a gap; whether
the word before the first one is bare is said by `afterBare`. -/
inductive WordsRendered : Bool → List Text → Text → Prop where
  | nil (afterBare : Bool) : WordsRendered afterBare [] []
  | bare (afterBare : Bool) (gap word rest : Text) (words : List Text) : Gap gap →
      (afterBare = true → gap ≠ []) → word ≠ [] → word.all isBareChar = true →
      WordsRendered true words rest → WordsRendered afterBare (word :: words) (gap ++ (word ++ rest))
  | quoted (afterBare : Bool) (gap word rest : Text) (words : List Text) : Gap gap →
      WordsRendered false words rest →
      WordsRendered afterBare (word :: words) (gap ++ '"' :: (word ++ '"' :: rest))

/-- A transform behind a gap; `none` may be left out. -/
inductive TransformRendered : Text → Text → Prop where
  | omitted : TransformRendered Naming.Transform.none.name []
  | written (gap name : Text) : Gap gap → gap ≠ [] → TransformRendered name (gap ++ name)

/-- The declaration of a set. -/
inductive SetRendered (set : VocabularySet) : Text → Prop where
  | declaration (gapColon gapCategory transform gapOpen words gapClose : Text) : Gap gapColon →
      Gap gapCategory → TransformRendered set.transform transform → Gap gapOpen →
      WordsRendered false set.words words → Gap gapClose →
      SetRendered set (set.name ++ (gapColon ++ ':' :: (gapCategory ++ (set.category ++
        (transform ++ (gapOpen ++ '\x7b' :: (words ++ (gapClose ++ ['\x7d']))))))))

/-- The declarations of sets, in order, with gaps around them. -/
inductive Rendered : Vocabulary → Text → Prop where
  | nil (gap : Text) : LastGap gap → Rendered [] gap
  | cons (set : VocabularySet) (sets : Vocabulary) (gap s rest : Text) : Gap gap →
      SetRendered set s → Rendered sets rest → Rendered (set :: sets) (gap ++ (s ++ rest))

/-! ## Gaps -/

namespace Gap

variable {gap gap' : Text}

theorem append (h : Gap gap) (h' : Gap gap') : Gap (gap ++ gap') := by
  induction h with
  | nil => exact h'
  | blank c gap hc _ ih => exact Gap.blank c _ hc ih
  | comment words gap hwords _ ih =>
    rw [List.append_assoc]
    exact Gap.comment words _ hwords ih

theorem spaces (n : Nat) : Gap (List.replicate n ' ') := by
  induction n with
  | zero => exact Gap.nil
  | succ n ih => exact Gap.blank ' ' _ (by decide) ih

/-- A gap is one in front of every text. -/
theorem isGap_append {s rest : Text} (h : Gap gap) (hs : IsGap s rest) : IsGap (gap ++ s) rest := by
  induction h with
  | nil => exact hs
  | blank c gap hc _ ih => exact IsGap.blank c _ rest hc ih
  | comment words gap hwords _ ih =>
    rw [List.append_assoc]
    exact IsGap.comment words _ rest hwords (Or.inr rfl) (IsGap.blank '\n' _ rest (by decide) ih)

theorem isGap (h : Gap gap) (rest : Text) : IsGap gap rest := by
  have hgap := h.isGap_append (IsGap.nil rest)
  rwa [List.append_nil] at hgap

/-- A class that no gap begins with stops in front of a gap. -/
theorem stops_of_ne_nil {p : Char → Bool} (hp : AvoidsGaps p) (h : Gap gap) (hne : gap ≠ [])
    (s : Text) : Stops p (gap ++ s) := by
  cases h with
  | nil => exact absurd rfl hne
  | blank c gap hc _ =>
    have hbegins : beginsGap c = true := by rw [beginsGap, hc, Bool.true_or]
    exact stops_cons.mpr (hp.eq_false hbegins)
  | comment words gap _ _ => exact stops_cons.mpr (hp.eq_false rfl)

theorem stops_append {p : Char → Bool} (hp : AvoidsGaps p) (h : Gap gap) {s : Text}
    (hs : Stops p s) : Stops p (gap ++ s) := by
  by_cases hne : gap = []
  · rw [hne]
    exact hs
  · exact h.stops_of_ne_nil hp hne s

end Gap

theorem LastGap.isGap {gap : Text} (h : LastGap gap) : IsGap gap [] := by
  cases h with
  | ended _ hgap => exact hgap.isGap []
  | comment gap words hgap hwords =>
    apply hgap.isGap_append
    have hcomment := IsGap.comment words [] [] hwords (Or.inl rfl) (IsGap.nil [])
    rwa [List.append_nil] at hcomment

/-! ## Tabs -/

section Tabs

variable {width : Nat}

/-- A gap whose tabs are expanded is a gap. -/
theorem Gap.expandTabs {gap : Text} (h : Gap gap) (column : Nat) :
    Gap (expandTabsFrom width column gap) := by
  induction h generalizing column with
  | nil => exact Gap.nil
  | blank c gap hc _ ih =>
    rw [expandTabsFrom_cons]
    unfold expandChar
    split
    · exact (Gap.spaces _).append (ih _)
    · exact Gap.blank c _ hc (ih _)
  | comment words gap hwords _ ih =>
    rw [List.cons_append, expandTabsFrom_cons_of_ne (by decide), expandTabsFrom_append,
      expandTabsFrom_cons_of_ne (by decide)]
    exact Gap.comment _ _ (notMem_expandTabsFrom (by decide) hwords) (ih _)

theorem LastGap.expandTabs {gap : Text} (h : LastGap gap) (column : Nat) :
    LastGap (expandTabsFrom width column gap) := by
  cases h with
  | ended _ hgap => exact LastGap.ended _ (hgap.expandTabs column)
  | comment gap words hgap hwords =>
    rw [expandTabsFrom_append, expandTabsFrom_cons_of_ne (by decide)]
    exact LastGap.comment _ _ (hgap.expandTabs column) (notMem_expandTabsFrom (by decide) hwords)

/-- Words without tabs are the same in every column. -/
theorem WordsRendered.expandTabs (hwidth : 0 < width) {afterBare : Bool} {words : List Text}
    {s : Text} (h : WordsRendered afterBare words s) (htabs : ∀ word ∈ words, '\t' ∉ word)
    (column : Nat) : WordsRendered afterBare words (expandTabsFrom width column s) := by
  induction h generalizing column with
  | nil afterBare => exact WordsRendered.nil afterBare
  | bare afterBare gap word rest words hgap hapart hne hall _ ih =>
    rcases List.forall_mem_cons.mp htabs with ⟨hword, hwords⟩
    rw [expandTabsFrom_append, expandTabsFrom_append, expandTabsFrom_of_notMem hword]
    exact WordsRendered.bare afterBare _ word _ words (hgap.expandTabs column)
      (fun hbare => expandTabsFrom_ne_nil hwidth (hapart hbare)) hne hall (ih hwords _)
  | quoted afterBare gap word rest words hgap _ ih =>
    rcases List.forall_mem_cons.mp htabs with ⟨hword, hwords⟩
    rw [expandTabsFrom_append, expandTabsFrom_cons_of_ne (by decide), expandTabsFrom_append,
      expandTabsFrom_of_notMem hword, expandTabsFrom_cons_of_ne (by decide)]
    exact WordsRendered.quoted afterBare _ word _ words (hgap.expandTabs column) (ih hwords _)

theorem TransformRendered.expandTabs (hwidth : 0 < width) {name s : Text}
    (h : TransformRendered name s) (htabs : '\t' ∉ name) (column : Nat) :
    TransformRendered name (expandTabsFrom width column s) := by
  cases h with
  | omitted => exact TransformRendered.omitted
  | written gap name hgap hne =>
    rw [expandTabsFrom_append, expandTabsFrom_of_notMem htabs]
    exact TransformRendered.written _ name (hgap.expandTabs column) (expandTabsFrom_ne_nil hwidth hne)

theorem notMem_of_all {p : Char → Bool} {c : Char} (hc : p c = false) {s : Text}
    (h : s.all p = true) : c ∉ s := by
  intro hmem
  have hp := List.all_eq_true.mp h c hmem
  rw [hc] at hp
  exact absurd hp (by simp)

theorem tab_notMem_name {name : Text} (h : isName name = true) : '\t' ∉ name := by
  cases name with
  | nil => exact List.not_mem_nil
  | cons c s =>
    rw [isName, Bool.and_eq_true] at h
    rw [List.mem_cons, not_or]
    refine ⟨?_, notMem_of_all (by decide) h.2⟩
    rintro rfl
    exact absurd h.1 (by decide)

theorem tab_notMem_category {s : Text} (h : ∃ category, Category.ofName? s = some category) :
    '\t' ∉ s := by
  rcases h with ⟨category, hcategory⟩
  rw [← Category.name_of_ofName? hcategory]
  exact notMem_of_all (by decide) (all_category category)

theorem tab_notMem_transform {s : Text}
    (h : ∃ transform, Naming.Transform.ofName? s = some transform) : '\t' ∉ s := by
  rcases h with ⟨transform, htransform⟩
  rw [← Naming.Transform.name_of_ofName? htransform]
  cases transform <;> decide

theorem SetRendered.expandTabs (hwidth : 0 < width) {set : VocabularySet} {s : Text}
    (h : SetRendered set s) (printable : set.Printable) (column : Nat) :
    SetRendered set (expandTabsFrom width column s) := by
  have hname := tab_notMem_name printable.name
  have hcategory := tab_notMem_category printable.category
  have htransform := tab_notMem_transform printable.transform
  have hwords : ∀ word ∈ set.words, '\t' ∉ word :=
    fun word hword => notMem_of_all rfl (printable.words word hword)
  cases h with
  | declaration gapColon gapCategory transform gapOpen words gapClose hgapColon hgapCategory
      hrendered hgapOpen hwordsRendered hgapClose =>
    -- the elements stay as they are, and each gap is expanded from the column it begins at
    have hclose : '\t' ∉ (['\x7d'] : Text) := by decide
    rw [expandTabsFrom_append, expandTabsFrom_of_notMem hname, expandTabsFrom_append,
      expandTabsFrom_cons_of_ne (by decide), expandTabsFrom_append, expandTabsFrom_append,
      expandTabsFrom_of_notMem hcategory, expandTabsFrom_append, expandTabsFrom_append,
      expandTabsFrom_cons_of_ne (by decide), expandTabsFrom_append, expandTabsFrom_append,
      expandTabsFrom_of_notMem hclose]
    exact SetRendered.declaration _ _ _ _ _ _ (hgapColon.expandTabs _) (hgapCategory.expandTabs _)
      (hrendered.expandTabs hwidth htransform _) (hgapOpen.expandTabs _)
      (hwordsRendered.expandTabs hwidth hwords _) (hgapClose.expandTabs _)

/-- A rendering whose tabs are expanded is a rendering of the same sets. -/
theorem Rendered.expandTabs (hwidth : 0 < width) {sets : Vocabulary} {s : Text}
    (h : Rendered sets s) (printable : ∀ set ∈ sets, set.Printable) (column : Nat) :
    Rendered sets (expandTabsFrom width column s) := by
  induction h generalizing column with
  | nil gap hgap => exact Rendered.nil _ (hgap.expandTabs column)
  | cons set sets gap s rest hgap hset _ ih =>
    rcases List.forall_mem_cons.mp printable with ⟨hprintable, hsets⟩
    rw [expandTabsFrom_append, expandTabsFrom_append]
    exact Rendered.cons set sets _ _ _ (hgap.expandTabs column) (hset.expandTabs hwidth hprintable _)
      (ih hsets _)

end Tabs

/-! ## Layouts -/

theorem unescape_of_notMem {s : Text} (h : '\\' ∉ s) : unescape s = s := by
  induction s with
  | nil => rfl
  | cons c s ih =>
    rw [List.mem_cons, not_or] at h
    rw [unescape_cons (Ne.symm h.1), ih h.2]

theorem all_isQuotedChar {word : Text} (h : word.all isPlainChar = true) :
    word.all isQuotedChar = true := by
  rw [List.all_eq_true] at h ⊢
  intro c hc
  have hplain := h c hc
  simp only [isPlainChar, decide_eq_true_eq, List.mem_cons, List.not_mem_nil, or_false, not_or] at hplain
  simp [isQuotedChar, hplain]

/-- Behind a bare word, the text does not go on with one. -/
theorem WordsRendered.stops {words : List Text} {s rest : Text} (h : WordsRendered true words s)
    (hrest : Stops isBareChar rest) : Stops isBareChar (s ++ rest) := by
  cases h with
  | nil => exact hrest
  | bare _ gap word behind words hgap hapart _ _ _ =>
    rw [List.append_assoc]
    exact hgap.stops_of_ne_nil avoidsGaps_isBareChar (hapart rfl) _
  | quoted _ gap word behind words hgap _ =>
    rw [List.append_assoc]
    exact hgap.stops_append avoidsGaps_isBareChar (stops_cons.mpr rfl)

/-- Words that are written down are laid out. -/
theorem WordsRendered.exists_layout {afterBare : Bool} {words : List Text} {s rest : Text}
    (h : WordsRendered afterBare words s)
    (hwords : ∀ word ∈ words, word.all isPlainChar = true)
    (hrest : Stops isBareChar rest) :
    ∃ layout, sequenceText WordLayout.text layout rest = s ++ rest ∧
      SequenceFits WordLayout.text WordLayout.Fits layout rest ∧ layout.map (·.2.value) = words := by
  induction h with
  | nil => exact ⟨[], rfl, trivial, rfl⟩
  | bare afterBare gap word behind words hgap _ hne hall hrendered ih =>
    rcases List.forall_mem_cons.mp hwords with ⟨-, hwords⟩
    rcases ih hwords with ⟨layout, htext, hfits, hvalues⟩
    have hstops := hrendered.stops hrest
    refine ⟨(gap, .bare word) :: layout, ?_, ⟨hgap.isGap _, ⟨hne, hall, ?_⟩, hfits⟩, ?_⟩
    · simp only [sequenceText, WordLayout.text, htext, List.append_assoc]
    · rw [htext]
      exact hstops
    · rw [List.map_cons, hvalues, WordLayout.value]
  | quoted afterBare gap word behind words hgap _ ih =>
    rcases List.forall_mem_cons.mp hwords with ⟨hword, hwords⟩
    rcases ih hwords with ⟨layout, htext, hfits, hvalues⟩
    refine ⟨(gap, .quoted word) :: layout, ?_, ⟨hgap.isGap _, all_isQuotedChar hword, hfits⟩, ?_⟩
    · simp only [sequenceText, WordLayout.text, htext, List.append_assoc, List.cons_append]
    · rw [List.map_cons, hvalues, WordLayout.value, unescape_of_notMem (notMem_of_all rfl hword)]

theorem TransformRendered.stops_append {p : Char → Bool} (hp : AvoidsGaps p) {name s rest : Text}
    (h : TransformRendered name s) (hrest : Stops p rest) : Stops p (s ++ rest) := by
  cases h with
  | omitted => exact hrest
  | written gap name hgap hne =>
    rw [List.append_assoc]
    exact hgap.stops_of_ne_nil hp hne _

theorem endsTransform_of_stops {s : Text} (h : Stops Word.isHead s) : endsTransform s = true := by
  cases s with
  | nil => rfl
  | cons c s => rw [endsTransform, stops_cons.mp h, Bool.not_false]

/-- A body that is written down is laid out, whether its transform is written or left out. -/
theorem TransformRendered.exists_body {t : Naming.Transform} {s gapOpen gapClose rest : Text}
    {words : List (Text × WordLayout)} (h : TransformRendered t.name s) (hopen : Gap gapOpen)
    (hwords : SequenceFits WordLayout.text WordLayout.Fits words (gapClose ++ '\x7d' :: rest))
    (hclose : Gap gapClose) :
    ∃ b : BodyLayout, b.text rest = s ++ (gapOpen ++ '\x7b' ::
        sequenceText WordLayout.text words (gapClose ++ '\x7d' :: rest)) ∧
      b.Fits rest ∧ b.transformValue = t ∧ b.values = words.map (·.2.value) := by
  generalize hname : t.name = name at h
  cases h with
  | omitted =>
    have ht : Naming.Transform.none = t := by
      have hsome := Naming.Transform.ofName?_name t
      rw [hname, Naming.Transform.ofName?_name, Option.some.injEq] at hsome
      exact hsome
    refine ⟨⟨none, gapOpen, words, gapClose⟩, rfl, ?_, ht, rfl⟩
    exact ⟨by simp, hopen.isGap _, hwords, hclose.isGap _⟩
  | written gap name hgap hne =>
    refine ⟨⟨some (gap, t), gapOpen, words, gapClose⟩, ?_, ?_, rfl, rfl⟩
    · rw [List.append_assoc, ← hname]
      rfl
    · refine ⟨?_, hopen.isGap _, hwords, hclose.isGap _⟩
      intro gap' t' ht'
      rcases Prod.mk.inj (Option.some.inj ht') with ⟨rfl, rfl⟩
      have hstops : Stops Word.isHead (gapOpen ++ '\x7b' ::
          sequenceText WordLayout.text words (gapClose ++ '\x7d' :: rest)) :=
        hopen.stops_append avoidsGaps_isHead (stops_cons.mpr rfl)
      exact ⟨hgap.isGap _, endsTransform_of_stops hstops⟩

/-- A set that is written down is laid out. -/
theorem SetRendered.exists_layout {set : VocabularySet} {s : Text} (h : SetRendered set s)
    (printable : set.Printable) (rest : Text) :
    ∃ d : DeclarationLayout, d.text rest = s ++ rest ∧ d.Fits rest ∧ d.set = set := by
  rcases printable.category with ⟨category, hcategory⟩
  rcases printable.transform with ⟨t, ht⟩
  have hcategory := Category.name_of_ofName? hcategory
  have ht := Naming.Transform.name_of_ofName? ht
  cases h with
  | declaration gapColon gapCategory transform gapOpen words gapClose hgapColon hgapCategory
      hrendered hgapOpen hwordsRendered hgapClose =>
    have hclose : Stops isBareChar (gapClose ++ '\x7d' :: rest) :=
      hgapClose.stops_append avoidsGaps_isBareChar (stops_cons.mpr rfl)
    rcases hwordsRendered.exists_layout printable.words hclose with ⟨layout, hwords, hfits, hvalues⟩
    rw [← ht] at hrendered
    rcases hrendered.exists_body hgapOpen hfits hgapClose with
      ⟨b, hbody, hbodyFits, htransform, hbodyValues⟩
    refine ⟨⟨set.name, gapColon, gapCategory, category, b⟩, ?_, ?_, ?_⟩
    · simp only [DeclarationLayout.text, DeclarationLayout.categoryText, hbody, hwords, hcategory,
        List.append_assoc, List.cons_append, List.nil_append]
    · refine ⟨printable.name, ?_, hgapColon.isGap _, hgapCategory.isGap _, ?_, hbodyFits⟩
      · exact hgapColon.stops_append avoidsGaps_isNameBody (stops_cons.mpr rfl)
      · rw [hbody]
        refine hrendered.stops_append avoidsGaps_isCategoryChar ?_
        exact hgapOpen.stops_append avoidsGaps_isCategoryChar (stops_cons.mpr rfl)
    · simp only [DeclarationLayout.set, htransform, hbodyValues, hvalues, hcategory, ht]

/-- A rendering is laid out as the sets that were written down. -/
theorem Rendered.exists_layout {sets : Vocabulary} {s : Text} (h : Rendered sets s)
    (printable : ∀ set ∈ sets, set.Printable) :
    ∃ layout : Layout, layout.Fits ∧ layout.text = s ∧ layout.vocabulary = sets := by
  induction h with
  | nil gap hgap => exact ⟨⟨[], gap⟩, ⟨trivial, hgap.isGap⟩, rfl, rfl⟩
  | cons set sets gap s rest hgap hset _ ih =>
    rcases List.forall_mem_cons.mp printable with ⟨hprintable, hsets⟩
    rcases ih hsets with ⟨layout, hfits, rfl, rfl⟩
    rcases hset.exists_layout hprintable layout.text with ⟨d, htext, hd, hdeclared⟩
    refine ⟨⟨(gap, d) :: layout.declarations, layout.lastGap⟩, ?_, ?_, ?_⟩
    · exact ⟨⟨hgap.isGap _, hd, hfits.declarations⟩, hfits.lastGap⟩
    · rw [← htext]
      rfl
    · rw [Layout.vocabulary, List.map_cons, hdeclared]
      rfl

/-! ## Parsing -/

/-- The words, each between quotes. -/
def printWords (words : List Text) : Text := words.flatMap fun word => '"' :: (word ++ ['"'])

/-- A set with all its words between quotes. -/
def printSet (set : VocabularySet) : Text :=
  set.name ++ ":" ++ set.category ++ " " ++ set.transform ++ "\x7b" ++ printWords set.words ++ "\x7d"

/-- The plainest rendering of a vocabulary. -/
def print (sets : Vocabulary) : Text := sets.flatMap printSet

theorem wordsRendered_printWords (afterBare : Bool) (words : List Text) :
    WordsRendered afterBare words (printWords words) := by
  induction words generalizing afterBare with
  | nil => exact WordsRendered.nil afterBare
  | cons word words ih =>
    have h := WordsRendered.quoted afterBare [] word (printWords words) words Gap.nil (ih false)
    simpa [printWords] using h

theorem setRendered_printSet (set : VocabularySet) : SetRendered set (printSet set) := by
  have hspace : Gap [' '] := Gap.spaces 1
  have h := @SetRendered.declaration set [] [] ([' '] ++ set.transform) []
    (printWords set.words) [] Gap.nil Gap.nil
    (TransformRendered.written [' '] set.transform hspace (List.cons_ne_nil _ _)) Gap.nil
    (wordsRendered_printWords false set.words) Gap.nil
  simpa [printSet] using h

/-- Every vocabulary has a rendering. -/
theorem rendered_print (sets : Vocabulary) : Rendered sets (print sets) := by
  induction sets with
  | nil => exact Rendered.nil [] (LastGap.ended [] Gap.nil)
  | cons set sets ih =>
    exact Rendered.cons set sets [] (printSet set) (print sets) Gap.nil (setRendered_printSet set) ih

/-- What is written down is parsed back. Sets with distinct names that can be written down have a
rendering, and each of their renderings is parsed to these sets: the same ones in the same order,
each with the same words in the same order. -/
theorem parse_of_rendered {sets : Vocabulary} (printable : ∀ set ∈ sets, set.Printable)
    (distinct : (sets.map (·.name)).Nodup) :
    Rendered sets (print sets) ∧ ∀ s, Rendered sets s → parse s = .ok sets := by
  refine ⟨rendered_print sets, ?_⟩
  intro s h
  have hexpanded : Rendered sets (s.expandTabs tabWidth) := h.expandTabs (by decide) printable 0
  rcases hexpanded.exists_layout printable with ⟨layout, hfits, htext, hsets⟩
  have hdistinct : (layout.vocabulary.map (·.name)).Nodup := by
    rw [hsets]
    exact distinct
  exact parseExpanded_eq_ok_iff_layout.mpr ⟨layout, hfits, htext, hdistinct, hsets⟩

/-- Elements that touch, a tab and a comment in gaps, an empty word and words that occur twice. -/
theorem parse_of_rendered_two_sets :
    (∀ set ∈ ([⟨"a-1", "type", "sigil", ["x", "y #\x7b", "", "x"]⟩,
        ⟨"b", "keyword", "none", ["@"]⟩] : Vocabulary), set.Printable) ∧
    (([⟨"a-1", "type", "sigil", ["x", "y #\x7b", "", "x"]⟩,
        ⟨"b", "keyword", "none", ["@"]⟩] : Vocabulary).map (·.name)).Nodup ∧
    Rendered [⟨"a-1", "type", "sigil", ["x", "y #\x7b", "", "x"]⟩, ⟨"b", "keyword", "none", ["@"]⟩]
      "a-1\t:type#c\r\nsigil\x7bx\"y #\x7b\"\"\" x\x7db:keyword\x7b@\x7d#end" ∧
    parse "a-1\t:type#c\r\nsigil\x7bx\"y #\x7b\"\"\" x\x7db:keyword\x7b@\x7d#end" =
      .ok [⟨"a-1", "type", "sigil", ["x", "y #\x7b", "", "x"]⟩, ⟨"b", "keyword", "none", ["@"]⟩] := by
  have printable : ∀ set ∈ ([⟨"a-1", "type", "sigil", ["x", "y #\x7b", "", "x"]⟩,
      ⟨"b", "keyword", "none", ["@"]⟩] : Vocabulary), set.Printable := by
    intro set hset
    simp only [List.mem_cons, List.not_mem_nil, or_false] at hset
    rcases hset with rfl | rfl
    · exact ⟨⟨⟨.type, rfl⟩, ⟨.sigil, rfl⟩⟩, by decide, by decide⟩
    · exact ⟨⟨⟨.keyword, rfl⟩, ⟨.none, rfl⟩⟩, by decide, by decide⟩
  have distinct : (([⟨"a-1", "type", "sigil", ["x", "y #\x7b", "", "x"]⟩,
      ⟨"b", "keyword", "none", ["@"]⟩] : Vocabulary).map (·.name)).Nodup := by decide
  have hwords : WordsRendered false ["x", "y #\x7b", "", "x"] "x\"y #\x7b\"\"\" x" := by
    refine WordsRendered.bare false [] "x" _ _ Gap.nil (by simp) (by decide) (by decide) ?_
    refine WordsRendered.quoted true [] "y #\x7b" _ _ Gap.nil ?_
    refine WordsRendered.quoted false [] "" _ _ Gap.nil ?_
    exact WordsRendered.bare false " " "x" _ _ (Gap.spaces 1) (by simp) (by decide) (by decide)
      (WordsRendered.nil true)
  have hfirst : SetRendered ⟨"a-1", "type", "sigil", ["x", "y #\x7b", "", "x"]⟩
      "a-1\t:type#c\r\nsigil\x7bx\"y #\x7b\"\"\" x\x7d" :=
    @SetRendered.declaration ⟨"a-1", "type", "sigil", ["x", "y #\x7b", "", "x"]⟩ "\t" []
      "#c\r\nsigil" [] "x\"y #\x7b\"\"\" x" [] (Gap.blank '\t' [] (by decide) Gap.nil) Gap.nil
      (TransformRendered.written "#c\r\n" "sigil" (Gap.comment "c\r" [] (by decide) Gap.nil)
        (by decide)) Gap.nil hwords Gap.nil
  have hsecond : SetRendered ⟨"b", "keyword", "none", ["@"]⟩ "b:keyword\x7b@\x7d" :=
    @SetRendered.declaration ⟨"b", "keyword", "none", ["@"]⟩ [] [] [] [] "@" [] Gap.nil Gap.nil
      TransformRendered.omitted Gap.nil (WordsRendered.bare false [] "@" [] [] Gap.nil (by simp)
        (by decide) (by decide) (WordsRendered.nil true)) Gap.nil
  have hrendered : Rendered
      [⟨"a-1", "type", "sigil", ["x", "y #\x7b", "", "x"]⟩, ⟨"b", "keyword", "none", ["@"]⟩]
      "a-1\t:type#c\r\nsigil\x7bx\"y #\x7b\"\"\" x\x7db:keyword\x7b@\x7d#end" :=
    Rendered.cons _ _ [] _ _ Gap.nil hfirst (Rendered.cons _ _ [] _ _ Gap.nil hsecond
      (Rendered.nil "#end" (LastGap.comment [] "end" Gap.nil (by decide))))
  exact ⟨printable, distinct, hrendered, (parse_of_rendered printable distinct).2 _ hrendered⟩

end Vocabulary

end MlogHighlight
