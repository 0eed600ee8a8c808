import MlogHighlight.Text.Basic

/-!
# Reading markup

Somebody who reads a page sees tags and, between them, text in which references stand for
characters. Both are read here without regard to what the tags mean. Main facts:

* `items_append`: a text that leaves no tag open is read by itself;
* `IsTag.items_append`: what is written as a tag is read as one;
* `items_plain_append`: a text in which no tag begins is read as it is;
* `exists_of_not_plain`: otherwise its first tag goes on up to its end, wherever that is;
* `References.length_decode_le`: a text is not longer once its references are decoded.
-/

namespace MlogHighlight.Markup

/-- A tag, a comment or a declaration, or a character outside of them. -/
inductive Item where
  | tag (source : Text)
  | char (c : Char)
deriving DecidableEq, Repr

namespace Item

/-- The source of a tag. -/
def source? : Item → Option Text
  | tag source => some source
  | char _ => none

/-- The character of an item that is no tag. -/
def char? : Item → Option Char
  | tag _ => none
  | char c => some c

end Item

/-- The characters behind a `<` that make it the beginning of a tag. -/
def opens (c : Char) : Bool := c.isAlpha || c == '/' || c == '!' || c == '?'

/-- Does a `<` in front of the text begin a tag? -/
def begins (s : Text) : Bool := s.head?.any opens

/-- Does a `>` end what is begun? It ends a comment only behind two hyphens. The text that is begun
is given backwards. -/
def closes (begun : Text) : Bool :=
  !("<!--" : Text).isPrefixOf begun.reverse || ("--" : Text).isPrefixOf begun

/-- Reads a character behind what is begun, which is empty outside of tags and a single character
as long as it is not known whether it begins one: the items that are complete, and what is begun
then. -/
def advance (begun : Text) (c : Char) : List Item × Text :=
  match begun with
  | [] => if c = '<' then ([], [c]) else ([.char c], [])
  | [first] =>
    if opens c then ([], [c, first])
    else if c = '<' then ([.char first], [c])
    else ([.char first, .char c], [])
  | _ => if c = '>' ∧ closes begun then ([.tag (c :: begun).reverse], []) else ([], c :: begun)

/-- The items of a text behind what is begun. What is not ended at the end is no tag. -/
def itemsFrom (begun : Text) : Text → List Item
  | [] => begun.reverse.map .char
  | c :: s => (advance begun c).1 ++ itemsFrom (advance begun c).2 s

/-- The tags and characters of a text. -/
def items (s : Text) : List Item := itemsFrom [] s

/-- What is begun behind a text. -/
def begunFrom (begun s : Text) : Text := s.foldl (fun begun c => (advance begun c).2) begun

/-- The text leaves no tag open. -/
def Closed (s : Text) : Prop := begunFrom [] s = []

instance (s : Text) : Decidable (Closed s) := inferInstanceAs (Decidable (_ = _))

/-- The text is read by itself, unless what follows makes a tag of its end. -/
def Separate (s : Text) : Prop :=
  ∀ rest, begins rest = false → items (s ++ rest) = items s ++ items rest

/-- No tag begins in the text. -/
def Plain (s : Text) : Prop := ∀ front back, s = front ++ '<' :: back → begins back = false

/-- The text is written as a tag, but not as a comment or a declaration. -/
def IsTag (source : Text) : Prop :=
  ∃ word : Text, source = '<' :: (word ++ ['>']) ∧ begins word ∧ word.head? ≠ some '!' ∧ '>' ∉ word

/-- The tags among items. -/
def tags (items : List Item) : List Text := items.filterMap Item.source?

/-- What is left when the tags are removed. -/
def text (items : List Item) : Text := items.filterMap Item.char?

/-- The tag at the beginning of an element. -/
def startTag (name : Text) : Text := "<" ++ name ++ ">"

/-- The tag at the end of an element. -/
def endTag (name : Text) : Text := "</" ++ name ++ ">"

/-- What stands in the first element of a name. -/
def element (name : Text) (items : List Item) : List Item :=
  ((items.dropWhile (· ≠ .tag (startTag name))).drop 1).takeWhile (· ≠ .tag (endTag name))

/-! ## Tags and text -/

@[simp] theorem tags_append (front back : List Item) : tags (front ++ back) = tags front ++ tags back :=
  List.filterMap_append

@[simp] theorem text_append (front back : List Item) : text (front ++ back) = text front ++ text back :=
  List.filterMap_append

@[simp] theorem tags_cons_tag (source : Text) (items : List Item) :
    tags (.tag source :: items) = source :: tags items := rfl

@[simp] theorem text_cons_tag (source : Text) (items : List Item) :
    text (.tag source :: items) = text items := rfl

@[simp] theorem tags_chars (s : Text) : tags (s.map .char) = [] := by
  rw [tags, List.filterMap_eq_nil_iff]
  intro item hitem
  rcases List.mem_map.mp hitem with ⟨c, -, rfl⟩
  rfl

@[simp] theorem text_chars (s : Text) : text (s.map .char) = s := by
  rw [text, List.filterMap_map]
  exact List.filterMap_some

theorem mem_tags {source : Text} {items : List Item} (h : .tag source ∈ items) : source ∈ tags items :=
  List.mem_filterMap.mpr ⟨.tag source, h, rfl⟩

theorem element_eq {name : Text} {front inner : List Item} (back : List Item)
    (hstart : startTag name ∉ tags front) (hend : endTag name ∉ tags inner) :
    element name (front ++ .tag (startTag name) :: (inner ++ .tag (endTag name) :: back)) = inner := by
  have hfront : .tag (startTag name) ∉ front := fun hmem => hstart (mem_tags hmem)
  have hinner : .tag (endTag name) ∉ inner := fun hmem => hend (mem_tags hmem)
  unfold element
  rw [List.dropWhile_append_of_pos, List.dropWhile_cons_of_neg, List.drop_one, List.tail_cons,
    List.takeWhile_append_of_pos, List.takeWhile_cons_of_neg, List.append_nil]
  · simp
  · intro item hitem
    simpa using ne_of_mem_of_not_mem hitem hinner
  · simp
  · intro item hitem
    simpa using ne_of_mem_of_not_mem hitem hfront

/-! ## Reading character by character -/

section

variable {s : Text} {c : Char}

/-- A text that leaves no tag open is read by itself. -/
theorem itemsFrom_append {begun : Text} (h : begunFrom begun s = []) (rest : Text) :
    itemsFrom begun (s ++ rest) = itemsFrom begun s ++ items rest := by
  induction s generalizing begun with
  | nil =>
    have hbegun : begun = [] := h
    rw [hbegun]
    rfl
  | cons c s ih => rw [List.cons_append, itemsFrom, itemsFrom, ih h, List.append_assoc]

theorem items_append (h : Closed s) (rest : Text) : items (s ++ rest) = items s ++ items rest :=
  itemsFrom_append h rest

theorem Closed.separate (h : Closed s) : Separate s := fun rest _ => items_append h rest

/-- Where no tag begins, a character is read as it is. -/
theorem items_cons (h : c = '<' → begins s = false) : items (c :: s) = .char c :: items s := by
  by_cases hc : c = '<'
  · subst hc
    cases s with
    | nil => rfl
    | cons d s =>
      have hd : opens d = false := h rfl
      -- the `<` is a character only once the next one is known
      by_cases hopen : d = '<'
      · subst hopen
        rfl
      · simp [items, itemsFrom, advance, hd, hopen]
  · simp [items, itemsFrom, advance, hc]

/-- Where a tag begins, it is gone on with. -/
theorem items_tag (h : opens c) (s : Text) : items ('<' :: c :: s) = itemsFrom [c, '<'] s := by
  simp [items, itemsFrom, advance, h]

theorem advance_inside {begun : Text} (h : 2 ≤ begun.length) (c : Char) :
    advance begun c =
      if c = '>' ∧ closes begun then ([.tag (c :: begun).reverse], []) else ([], c :: begun) := by
  rcases begun with _ | ⟨second, _ | ⟨first, begun⟩⟩
  · simp at h
  · simp at h
  · rfl

theorem itemsFrom_tag {first : Char} (hfirst : first ≠ '!') (front : Text) {word : Text}
    (hend : '>' ∉ word) (rest : Text) : itemsFrom (front ++ [first, '<']) (word ++ '>' :: rest) =
      .tag ('<' :: first :: (front.reverse ++ (word ++ ['>']))) :: items rest := by
  have hinside (front : Text) : 2 ≤ (front ++ [first, '<']).length := by simp
  induction word generalizing front with
  | nil =>
    have hcloses : closes (front ++ [first, '<']) = true := by
      simp [closes, List.isPrefixOf, Ne.symm hfirst]
    rw [List.nil_append, itemsFrom, advance_inside (hinside front), if_pos ⟨rfl, hcloses⟩]
    simp [items]
  | cons c word ih =>
    rw [List.mem_cons, not_or] at hend
    have hc : ¬ (c = '>' ∧ closes (front ++ [first, '<'])) := fun h => hend.1 h.1.symm
    have hrest := ih (c :: front) hend.2
    rw [List.cons_append, itemsFrom, advance_inside (hinside front), if_neg hc, List.nil_append,
      ← List.cons_append, hrest]
    simp

/-- What is written as a tag is read by itself. -/
theorem IsTag.items_append {source : Text} (h : IsTag source) (rest : Text) :
    items (source ++ rest) = .tag source :: items rest := by
  rcases h with ⟨word, rfl, hbegins, hword, hend⟩
  cases word with
  | nil => simp [begins] at hbegins
  | cons first word =>
    rw [List.mem_cons, not_or] at hend
    have hfirst : first ≠ '!' := by simpa using hword
    have hread := itemsFrom_tag hfirst [] hend.2 rest
    rw [List.cons_append, List.append_assoc, List.cons_append, items_tag hbegins]
    exact hread

example : tags (items "a < b<br><!-- > -->") = (["<br>", "<!-- > -->"] : List Text) := by
  decide +kernel

/-- Texts that are read by themselves are so one after the other. -/
theorem items_flatMap_append {α : Type} {f : α → Text} {g : α → List Item} {entries : List α}
    (h : ∀ a ∈ entries, ∀ rest, items (f a ++ rest) = g a ++ items rest) (rest : Text) :
    items (entries.flatMap f ++ rest) = entries.flatMap g ++ items rest := by
  induction entries with
  | nil => rfl
  | cons a entries ih =>
    rw [List.forall_mem_cons] at h
    rw [List.flatMap_cons, List.flatMap_cons, List.append_assoc, h.1, ih h.2, List.append_assoc]

/-! ## Where tags begin -/

theorem plain_of_notMem (h : '<' ∉ s) : Plain s := by
  intro front back hs
  exact absurd (by rw [hs]; simp) h

theorem Plain.of_cons (h : Plain (c :: s)) : Plain s := by
  intro front back hs
  exact h (c :: front) back (by rw [hs]; rfl)

theorem plain_cons (hc : c = '<' → begins s = false) (hs : Plain s) : Plain (c :: s) := by
  intro front back heq
  cases front with
  | nil =>
    rcases List.cons.inj heq with ⟨rfl, rfl⟩
    exact hc rfl
  | cons first front => exact hs front back (List.cons.inj heq).2

/-- A text in which no tag begins is read as it is, unless what follows makes a tag of its end. -/
theorem items_plain_append (h : Plain s) {rest : Text} (hrest : begins rest = false) :
    items (s ++ rest) = s.map .char ++ items rest := by
  induction s with
  | nil => rfl
  | cons c s ih =>
    have hc : c = '<' → begins (s ++ rest) = false := by
      rintro rfl
      cases s with
      | nil => exact hrest
      | cons d s => exact h [] (d :: s) rfl
    rw [List.cons_append, items_cons hc, ih h.of_cons]
    rfl

theorem items_of_plain (h : Plain s) : items s = s.map .char := by
  have hread : items (s ++ []) = s.map .char ++ items [] := items_plain_append h rfl
  rwa [List.append_nil, items, items, itemsFrom, List.reverse_nil, List.map_nil, List.append_nil]
    at hread

theorem Plain.separate (h : Plain s) : Separate s := by
  intro rest hrest
  rw [items_plain_append h hrest, items_of_plain h]

/-- A text without a `<` is read as it is, whatever follows. -/
theorem items_append_of_notMem (h : '<' ∉ s) (rest : Text) :
    items (s ++ rest) = s.map .char ++ items rest := by
  induction s with
  | nil => rfl
  | cons c s ih =>
    rw [List.mem_cons, not_or] at h
    rw [List.cons_append, items_cons fun hc => absurd hc.symm h.1, ih h.2]
    rfl

/-- A tag that is begun goes on up to its end, and is no tag if there is none. -/
theorem itemsFrom_inside {begun : Text} (h : 2 ≤ begun.length) (s : Text) :
    itemsFrom begun s = (begun.reverse ++ s).map .char ∨
      ∃ source rest, itemsFrom begun s = .tag source :: items rest := by
  induction s generalizing begun with
  | nil =>
    left
    rw [itemsFrom, List.append_nil]
  | cons c s ih =>
    rw [itemsFrom, advance_inside h]
    by_cases hclose : c = '>' ∧ closes begun
    · rw [if_pos hclose]
      exact Or.inr ⟨_, s, rfl⟩
    · have hnext : 2 ≤ (c :: begun).length := Nat.le_succ_of_le h
      have hrest := ih hnext
      rw [List.reverse_cons, List.append_assoc, List.singleton_append] at hrest
      rw [if_neg hclose]
      exact hrest

/-- The first tag that begins in a text goes on up to its end, wherever that is. -/
theorem exists_of_not_plain (h : ¬ Plain s) :
    ∃ front back, s = front ++ '<' :: back ∧ ∀ rest,
      (∃ word, items (s ++ rest) = (front ++ word).map .char) ∨
      ∃ source later, items (s ++ rest) = front.map .char ++ .tag source :: items later := by
  induction s with
  | nil => exact absurd (plain_of_notMem (by simp)) h
  | cons c s ih =>
    by_cases hc : c = '<' ∧ begins s
    · rcases hc with ⟨rfl, hs⟩
      refine ⟨[], s, rfl, ?_⟩
      intro rest
      cases s with
      | nil => simp [begins] at hs
      | cons d s =>
        rw [List.cons_append, List.cons_append, items_tag hs]
        have hbegun : 2 ≤ [d, '<'].length := Nat.le_refl 2
        rcases itemsFrom_inside hbegun (s ++ rest) with hchars | htag
        · exact Or.inl ⟨_, hchars⟩
        · exact Or.inr htag
    · have hcons : c = '<' → begins s = false := by
        intro hlt
        simpa using fun hs => hc ⟨hlt, hs⟩
      have hs : ¬ Plain s := fun hs => h (plain_cons hcons hs)
      rcases ih hs with ⟨front, back, rfl, hread⟩
      refine ⟨c :: front, back, rfl, ?_⟩
      intro rest
      have hnext : c = '<' → begins (front ++ '<' :: back ++ rest) = false := by
        intro hlt
        rw [← hcons hlt]
        cases front <;> rfl
      rw [List.cons_append, items_cons hnext]
      rcases hread rest with ⟨word, hword⟩ | ⟨source, later, htag⟩
      · exact Or.inl ⟨word, by rw [hword]; rfl⟩
      · exact Or.inr ⟨source, later, by rw [htag]; rfl⟩

end

/-! ## References -/

/-- How character references are read: what stands behind a `&` may begin with a name, which stands
for some characters and has a length. -/
abbrev References := Text → Option (Text × Nat)

namespace References

/-- The three references that every reader knows are read, and no reference stands for more
characters than it has. -/
structure Standard (refs : References) : Prop where
  amp : ∀ s, refs ("amp;" ++ s) = some (['&'], 4)
  lt : ∀ s, refs ("lt;" ++ s) = some (['<'], 3)
  gt : ∀ s, refs ("gt;" ++ s) = some (['>'], 3)
  length_le : ∀ s meant length, refs s = some (meant, length) →
    meant.length ≤ length + 1 ∧ length ≤ s.length

/-- The text that is meant behind `skip` characters, which belong to a reference. -/
def decodeFrom (refs : References) : Nat → Text → Text
  | _, [] => []
  | skip + 1, _ :: s => decodeFrom refs skip s
  | 0, c :: s =>
    if c = '&' then
      match refs s with
      | some (meant, length) => meant ++ decodeFrom refs length s
      | none => c :: decodeFrom refs 0 s
    else c :: decodeFrom refs 0 s

/-- The text that is meant by one with references. -/
def decode (refs : References) (s : Text) : Text := decodeFrom refs 0 s

/-- The references for the characters that have a meaning in markup. -/
def basic : References := fun s =>
  let names : List (Text × Text) := [("amp;", "&"), ("lt;", "<"), ("gt;", ">"), ("quot;", "\"")]
  (names.find? fun entry => entry.1.isPrefixOf s).map fun entry => (entry.2, entry.1.length)

variable {refs : References}

theorem standard_basic : Standard basic where
  amp _ := rfl
  lt _ := rfl
  gt _ := rfl
  length_le := by
    intro s meant length h
    rcases Option.map_eq_some_iff.mp h with ⟨⟨name, char⟩, hfind, hentry⟩
    have hmem := List.mem_of_find?_eq_some hfind
    have hfound := List.find?_some hfind
    have hname : name.length ≤ s.length := (List.isPrefixOf_iff_prefix.mp hfound).length_le
    rcases Prod.mk.inj hentry with ⟨rfl, rfl⟩
    refine ⟨?_, hname⟩
    simp only [List.mem_cons, List.not_mem_nil, or_false, Prod.mk.injEq] at hmem
    rcases hmem with ⟨-, rfl⟩ | ⟨-, rfl⟩ | ⟨-, rfl⟩ | ⟨-, rfl⟩ <;> simp

theorem decodeFrom_append (refs : References) (name s : Text) :
    decodeFrom refs name.length (name ++ s) = decode refs s := by
  induction name with
  | nil => rfl
  | cons c name ih => exact ih

/-- A reference is decoded before what follows. -/
theorem decode_reference {name meant s : Text} (h : refs (name ++ s) = some (meant, name.length)) :
    decode refs ('&' :: (name ++ s)) = meant ++ decode refs s := by
  rw [decode, decodeFrom, if_pos rfl, h, ← decodeFrom_append refs name s]

theorem decode_cons {c : Char} (hc : c ≠ '&') (s : Text) :
    decode refs (c :: s) = c :: decode refs s := by
  rw [decode, decodeFrom, if_neg hc]
  rfl

theorem decode_of_notMem {s : Text} (h : '&' ∉ s) : decode refs s = s := by
  induction s with
  | nil => rfl
  | cons c s ih =>
    rw [List.mem_cons, not_or] at h
    rw [decode_cons (Ne.symm h.1), ih h.2]

theorem length_decodeFrom_le (hrefs : refs.Standard) {skip : Nat} {s : Text}
    (hskip : skip ≤ s.length) : (decodeFrom refs skip s).length + skip ≤ s.length := by
  induction s generalizing skip with
  | nil =>
    rw [decodeFrom, List.length_nil, Nat.zero_add]
    exact hskip
  | cons c s ih =>
    rw [List.length_cons] at hskip ⊢
    cases skip with
    | succ skip =>
      have hs := ih (Nat.le_of_succ_le_succ hskip)
      rw [decodeFrom]
      omega
    | zero =>
      have hs := ih (Nat.zero_le _)
      rw [decodeFrom]
      split
      · split
        next meant length href =>
          have hlength := hrefs.length_le _ _ _ href
          have hbehind := ih hlength.2
          rw [List.length_append]
          omega
        next => simpa using hs
      · simpa using hs

/-- A text is not longer once its references are decoded. -/
theorem length_decode_le (hrefs : refs.Standard) (s : Text) : (decode refs s).length ≤ s.length :=
  length_decodeFrom_le hrefs (Nat.zero_le _)

end References

/-- The text that is meant by the first element of a name. -/
def content (refs : References) (name : Text) (items : List Item) : Text :=
  refs.decode (text (element name items))

theorem content_eq (refs : References) {name : Text} {front inner back whole : List Item}
    (hwhole : whole = front ++ .tag (startTag name) :: (inner ++ .tag (endTag name) :: back))
    (hstart : startTag name ∉ tags front) (hend : endTag name ∉ tags inner) :
    content refs name whole = refs.decode (text inner) := by
  rw [content, hwhole, element_eq back hstart hend]

end MlogHighlight.Markup
