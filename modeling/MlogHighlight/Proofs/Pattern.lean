import Mathlib.Data.List.Basic
import MlogHighlight.Text.Passage

/-!
# Patterns

Comments, labels and words are usually described by patterns in the notation of regular
expressions. This module says what such a pattern means, so that the readers of the program can be
compared with it.

A pattern is a sequence of items, some of which are captured. An item may match in several ways,
listed in order of preference: a repetition takes as many characters as it can and gives them back
one by one. The first way in which all items match is the match at a place. A search goes through a
text from left to right and resumes behind each match. Main facts:

* `Pattern.find_pairwise`, `Pattern.bounds_of_mem_find`: what a search finds is in order, does not
  overlap and lies inside the text, whatever the pattern;
* `mem_ends_many`, `head?_ends_many`: the ways a repetition can end, and the one it prefers.
-/

namespace MlogHighlight

/-- A place in a text: the characters in front of it, the last one first, and those behind it. -/
structure Cursor where
  before : Text
  after : Text
deriving DecidableEq, Repr

namespace Cursor

/-- The number of characters in front of the place. -/
def position (k : Cursor) : Nat := k.before.length

/-- The place behind the next characters, `word`, with `rest` behind it. -/
def pass (k : Cursor) (word rest : Text) : Cursor := ⟨word.reverse ++ k.before, rest⟩

@[simp] theorem after_pass (k : Cursor) (word rest : Text) : (k.pass word rest).after = rest := rfl

@[simp] theorem pass_pass (k : Cursor) (word rest word' rest' : Text) :
    (k.pass word rest).pass word' rest' = k.pass (word ++ word') rest' := by
  simp [pass]

@[simp] theorem position_start (s : Text) : position ⟨[], s⟩ = 0 := rfl

@[simp] theorem position_pass (k : Cursor) (word rest : Text) :
    (k.pass word rest).position = k.position + word.length := by
  simp [pass, position, Nat.add_comm]

/-- The second place is the first one, or a later one of the same text. -/
def Reaches (k l : Cursor) : Prop := ∃ word, k.after = word ++ l.after ∧ l = k.pass word l.after

theorem Reaches.refl (k : Cursor) : k.Reaches k := ⟨[], rfl, rfl⟩

theorem Reaches.trans {k l m : Cursor} (hkl : k.Reaches l) (hlm : l.Reaches m) : k.Reaches m := by
  rcases hkl with ⟨word, hafter, hl⟩
  rcases hlm with ⟨word', hafter', hm⟩
  refine ⟨word ++ word', ?_, ?_⟩
  · rw [hafter, hafter', List.append_assoc]
  · rw [hm, hl, pass_pass, after_pass]

theorem Reaches.position_le {k l : Cursor} (h : k.Reaches l) : k.position ≤ l.position := by
  rcases h with ⟨word, -, hl⟩
  rw [hl, position_pass]
  omega

theorem Reaches.position_add {k l : Cursor} (h : k.Reaches l) :
    l.position + l.after.length = k.position + k.after.length := by
  rcases h with ⟨word, hafter, hl⟩
  rw [hl, hafter, position_pass, after_pass, List.length_append]
  omega

end Cursor

namespace Pattern

/-- An item of a pattern: a character of a class, one that may be missing, as many as there are, or
a condition on the place. -/
inductive Item where
  | one (p : Char → Bool)
  | maybe (p : Char → Bool)
  | many (p : Char → Bool)
  | atStart
  | atEnd
  | notBehind (p : Char → Bool)
  | notAhead (p : Char → Bool)

/-- The ways to take characters of a class, the longest first. -/
def repeated (p : Char → Bool) (before : Text) : Text → List Cursor
  | [] => [⟨before, []⟩]
  | c :: s =>
    if p c then repeated p (c :: before) s ++ [⟨before, c :: s⟩] else [⟨before, c :: s⟩]

/-- The ways to take one character of a class. -/
def single (p : Char → Bool) (k : Cursor) : List Cursor :=
  match k.after with
  | [] => []
  | c :: s => if p c then [k.pass [c] s] else []

/-- Where an item that starts at a place may end, in order of preference. -/
def Item.ends : Item → Cursor → List Cursor
  | .one p, k => single p k
  | .maybe p, k => single p k ++ [k]
  | .many p, k => repeated p k.before k.after
  | .atStart, k => if k.before.isEmpty then [k] else []
  | .atEnd, k => if k.after.isEmpty then [k] else []
  | .notBehind p, k => if k.before.head?.any p then [] else [k]
  | .notAhead p, k => if k.after.head?.any p then [] else [k]

/-- Where a sequence of items may end, in order of preference. -/
def ends : List Item → Cursor → List Cursor
  | [], k => [k]
  | item :: items, k => (item.ends k).flatMap (ends items)

end Pattern

/-- Items, with those in the middle captured. -/
structure Pattern where
  lead : List Pattern.Item := []
  captured : List Pattern.Item
  trail : List Pattern.Item := []

namespace Pattern

/-- A match: the captured positions, and the place it ends at. -/
structure Match where
  captured : Span
  stop : Cursor
deriving DecidableEq, Repr

/-- The matches at a place, in order of preference. -/
def matchesAt (pattern : Pattern) (k : Cursor) : List Match :=
  (ends pattern.lead k).flatMap fun first =>
    (ends pattern.captured first).flatMap fun last =>
      (ends pattern.trail last).map fun stop => ⟨⟨first.position, last.position⟩, stop⟩

/-- What the matches in a text capture, where the first `skip` characters belong to a match already
found. -/
def find (pattern : Pattern) (skip : Nat) (before : Text) : Text → List Span
  | [] => ((pattern.matchesAt ⟨before, []⟩).head?.map (·.captured)).toList
  | c :: s =>
    if skip ≠ 0 then pattern.find (skip - 1) (c :: before) s
    else match (pattern.matchesAt ⟨before, c :: s⟩).head? with
      | none => pattern.find 0 (c :: before) s
      | some m => m.captured :: pattern.find (m.stop.position - (before.length + 1)) (c :: before) s

/-- The spans that a pattern finds in a text, empty ones left out. -/
def spans (pattern : Pattern) (s : Text) : List Span :=
  (pattern.find 0 [] s).filter fun span => span.start < span.stop

/-! ## The ends of items -/

theorem mem_single {p : Char → Bool} {k l : Cursor} :
    l ∈ single p k ↔ ∃ c s, k.after = c :: s ∧ p c = true ∧ l = k.pass [c] s := by
  unfold single
  cases hk : k.after with
  | nil => simp
  | cons c s => by_cases hc : p c = true <;> simp [hc]

theorem mem_repeated {p : Char → Bool} {before s : Text} {l : Cursor} :
    l ∈ repeated p before s ↔
      ∃ word rest, s = word ++ rest ∧ word.all p = true ∧ l = ⟨word.reverse ++ before, rest⟩ := by
  induction s generalizing before with
  | nil =>
    constructor
    · intro h
      exact ⟨[], [], by simpa [repeated] using h⟩
    · rintro ⟨word, rest, hs, -, rfl⟩
      rcases List.append_eq_nil_iff.mp hs.symm with ⟨rfl, rfl⟩
      simp [repeated]
  | cons c s ih =>
    constructor
    · intro h
      by_cases hc : p c = true
      · simp only [repeated, hc, if_true, List.mem_append, List.mem_singleton] at h
        rcases h with h | h
        · rcases ih.mp h with ⟨word, rest, hs, hword, hl⟩
          exact ⟨c :: word, rest, by simp [hs], by simp [hc, hword], by simp [hl]⟩
        · exact ⟨[], c :: s, rfl, rfl, h⟩
      · refine ⟨[], c :: s, rfl, rfl, ?_⟩
        simpa [repeated, hc] using h
    · rintro ⟨word, rest, hs, hword, rfl⟩
      cases word with
      | nil =>
        obtain rfl : c :: s = rest := hs
        by_cases hc : p c = true <;> simp [repeated, hc]
      | cons d word =>
        simp only [List.cons_append, List.cons.injEq] at hs
        rcases hs with ⟨rfl, hs⟩
        simp only [List.all_cons, Bool.and_eq_true] at hword
        simp only [repeated, hword.1, if_true, List.mem_append]
        exact Or.inl (ih.mpr ⟨word, rest, hs, hword.2, by simp⟩)

theorem head?_repeated (p : Char → Bool) (before s : Text) :
    (repeated p before s).head? = some ⟨(s.takeWhile p).reverse ++ before, s.dropWhile p⟩ := by
  induction s generalizing before with
  | nil => simp [repeated]
  | cons c s ih => by_cases hc : p c = true <;> simp [repeated, hc, ih]

@[simp] theorem ends_nil (k : Cursor) : ends [] k = [k] := rfl

theorem ends_cons (item : Item) (items : List Item) (k : Cursor) :
    ends (item :: items) k = (item.ends k).flatMap (ends items) := rfl

theorem ends_singleton (item : Item) (k : Cursor) : ends [item] k = item.ends k :=
  List.flatMap_singleton' (item.ends k)

theorem mem_ends_cons {item : Item} {items : List Item} {k l : Cursor} :
    l ∈ ends (item :: items) k ↔ ∃ m ∈ item.ends k, l ∈ ends items m := by
  rw [ends_cons, List.mem_flatMap]

/-- A repetition may end behind any number of characters of its class. -/
theorem mem_ends_many {p : Char → Bool} {k l : Cursor} :
    l ∈ (Item.many p).ends k ↔
      ∃ word rest, k.after = word ++ rest ∧ word.all p = true ∧ l = k.pass word rest :=
  mem_repeated

/-- A repetition prefers to end behind all the characters of its class. -/
theorem head?_ends_many (p : Char → Bool) (k : Cursor) :
    ((Item.many p).ends k).head? = some (k.pass (k.after.takeWhile p) (k.after.dropWhile p)) :=
  head?_repeated p k.before k.after

theorem mem_ends_one_cons {p : Char → Bool} {items : List Item} {k l : Cursor} :
    l ∈ ends (.one p :: items) k ↔
      ∃ c s, k.after = c :: s ∧ p c = true ∧ l ∈ ends items (k.pass [c] s) := by
  rw [mem_ends_cons]
  constructor
  · intro h
    rcases h with ⟨m, hm, hl⟩
    rcases mem_single.mp hm with ⟨c, s, hk, hc, rfl⟩
    exact ⟨c, s, hk, hc, hl⟩
  · intro h
    rcases h with ⟨c, s, hk, hc, hl⟩
    exact ⟨_, mem_single.mpr ⟨c, s, hk, hc, rfl⟩, hl⟩

theorem mem_ends_many_cons {p : Char → Bool} {items : List Item} {k l : Cursor} :
    l ∈ ends (.many p :: items) k ↔
      ∃ word rest, k.after = word ++ rest ∧ word.all p = true ∧
        l ∈ ends items (k.pass word rest) := by
  rw [mem_ends_cons]
  constructor
  · intro h
    rcases h with ⟨m, hm, hl⟩
    rcases mem_ends_many.mp hm with ⟨word, rest, hk, hword, rfl⟩
    exact ⟨word, rest, hk, hword, hl⟩
  · intro h
    rcases h with ⟨word, rest, hk, hword, hl⟩
    exact ⟨_, mem_ends_many.mpr ⟨word, rest, hk, hword, rfl⟩, hl⟩

theorem mem_ends_atStart_cons {items : List Item} {k l : Cursor} :
    l ∈ ends (.atStart :: items) k ↔ k.before = [] ∧ l ∈ ends items k := by
  by_cases hk : k.before = [] <;> simp [ends_cons, Item.ends, hk]

theorem mem_ends_atEnd_cons {items : List Item} {k l : Cursor} :
    l ∈ ends (.atEnd :: items) k ↔ k.after = [] ∧ l ∈ ends items k := by
  by_cases hk : k.after = [] <;> simp [ends_cons, Item.ends, hk]

theorem mem_ends_notAhead_cons {p : Char → Bool} {items : List Item} {k l : Cursor} :
    l ∈ ends (.notAhead p :: items) k ↔ k.after.head?.any p = false ∧ l ∈ ends items k := by
  cases hk : k.after.head?.any p <;> simp [ends_cons, Item.ends, hk]

/-- A text that is matched as it is. -/
def literal (word : Text) : List Item := word.map fun c => .one (· == c)

theorem mem_ends_literal_append {word : Text} {items : List Item} {k l : Cursor} :
    l ∈ ends (literal word ++ items) k ↔
      ∃ rest, k.after = word ++ rest ∧ l ∈ ends items (k.pass word rest) := by
  induction word generalizing k with
  | nil =>
    constructor
    · intro h
      exact ⟨k.after, rfl, h⟩
    · rintro ⟨rest, hk, hl⟩
      obtain rfl : k.after = rest := hk
      exact hl
  | cons c word ih =>
    have hunfold : literal (c :: word) ++ items = .one (· == c) :: (literal word ++ items) := rfl
    rw [hunfold, mem_ends_one_cons]
    constructor
    · rintro ⟨d, s, hk, hd, hl⟩
      rcases ih.mp hl with ⟨rest, hs, hl⟩
      obtain rfl : d = c := by simpa using hd
      refine ⟨rest, ?_, by simpa using hl⟩
      rw [hk, List.cons_append, ← hs, Cursor.after_pass]
    · rintro ⟨rest, hk, hl⟩
      exact ⟨c, word ++ rest, hk, by simp, ih.mpr ⟨rest, rfl, by simpa using hl⟩⟩

theorem reaches_of_mem_single {p : Char → Bool} {k l : Cursor} (h : l ∈ single p k) :
    k.Reaches l := by
  rcases mem_single.mp h with ⟨c, s, hs, -, rfl⟩
  exact ⟨[c], by simp [hs], by simp⟩

theorem reaches_of_mem_item_ends {item : Item} {k l : Cursor} (h : l ∈ item.ends k) :
    k.Reaches l := by
  cases item with
  | one p => exact reaches_of_mem_single h
  | maybe p =>
    simp only [Item.ends, List.mem_append, List.mem_singleton] at h
    rcases h with h | rfl
    · exact reaches_of_mem_single h
    · exact Cursor.Reaches.refl l
  | many p =>
    rcases mem_ends_many.mp h with ⟨word, rest, hs, -, rfl⟩
    exact ⟨word, by simp [hs], by simp⟩
  | atStart | atEnd | notBehind | notAhead =>
    simp only [Item.ends] at h
    split at h <;> simp_all [Cursor.Reaches.refl]

theorem reaches_of_mem_ends {items : List Item} {k l : Cursor} (h : l ∈ ends items k) :
    k.Reaches l := by
  induction items generalizing k with
  | nil =>
    obtain rfl : l = k := by simpa using h
    exact Cursor.Reaches.refl l
  | cons item items ih =>
    rcases mem_ends_cons.mp h with ⟨m, hm, hl⟩
    exact (reaches_of_mem_item_ends hm).trans (ih hl)

/-! ## Matches -/

theorem mem_matchesAt {pattern : Pattern} {k : Cursor} {m : Match} :
    m ∈ pattern.matchesAt k ↔
      ∃ first ∈ ends pattern.lead k, ∃ last ∈ ends pattern.captured first,
        m.stop ∈ ends pattern.trail last ∧ m.captured = ⟨first.position, last.position⟩ := by
  simp only [matchesAt, List.mem_flatMap, List.mem_map]
  constructor
  · intro h
    rcases h with ⟨first, hfirst, last, hlast, stop, hstop, rfl⟩
    exact ⟨first, hfirst, last, hlast, hstop, rfl⟩
  · intro h
    rcases h with ⟨first, hfirst, last, hlast, hstop, hm⟩
    exact ⟨first, hfirst, last, hlast, m.stop, hstop, by rw [← hm]⟩

/-- A match captures something between the place it begins at and the place it ends at. -/
theorem bounds_of_mem_matchesAt {pattern : Pattern} {k : Cursor} {m : Match}
    (h : m ∈ pattern.matchesAt k) :
    k.position ≤ m.captured.start ∧ m.captured.start ≤ m.captured.stop ∧
      m.captured.stop ≤ m.stop.position ∧ m.stop.position ≤ k.position + k.after.length := by
  rcases mem_matchesAt.mp h with ⟨first, hfirst, last, hlast, hstop, hm⟩
  have hlead := reaches_of_mem_ends hfirst
  have hcaptured := reaches_of_mem_ends hlast
  have htrail := reaches_of_mem_ends hstop
  have htotal := ((hlead.trans hcaptured).trans htrail).position_add
  rw [hm]
  refine ⟨hlead.position_le, hcaptured.position_le, htrail.position_le, ?_⟩
  omega

/-- If all matches at a place capture the same, so does the one that is chosen. -/
theorem head?_captured {pattern : Pattern} {k : Cursor} {m : Match} {span : Span}
    (hm : m ∈ pattern.matchesAt k)
    (hall : ∀ m' ∈ pattern.matchesAt k, m'.captured = span) :
    (pattern.matchesAt k).head?.map (·.captured) = some span := by
  cases hmatches : pattern.matchesAt k with
  | nil => simp [hmatches] at hm
  | cons first rest => simp [hall first (by simp [hmatches])]

/-! ## Searching -/

variable (pattern : Pattern)

/-- Skipping is going on behind what is skipped. -/
theorem find_skip (skip : Nat) (before s : Text) (h : skip ≤ s.length) :
    pattern.find skip before s = pattern.find 0 ((s.take skip).reverse ++ before) (s.drop skip) := by
  induction s generalizing skip before with
  | nil =>
    obtain rfl : skip = 0 := by simpa using h
    rfl
  | cons c s ih =>
    cases skip with
    | zero => rfl
    | succ skip =>
      have hs : skip ≤ s.length := by simpa using h
      simp [find, ih skip (c :: before) hs]

/-- A search goes on behind a character at which nothing matches. -/
theorem find_cons_of_none {before s : Text} {c : Char}
    (h : (pattern.matchesAt ⟨before, c :: s⟩).head? = none) :
    pattern.find 0 before (c :: s) = pattern.find 0 (c :: before) s := by
  simp [find, h]

/-- A search goes on behind the match that begins at a character. -/
theorem find_cons_of_some {before s : Text} {c : Char} {word rest : Text} {span : Span}
    (hs : s = word ++ rest)
    (h : (pattern.matchesAt ⟨before, c :: s⟩).head? =
      some ⟨span, ⟨word.reverse ++ c :: before, rest⟩⟩) :
    pattern.find 0 before (c :: s) = span :: pattern.find 0 (word.reverse ++ c :: before) rest := by
  have hskip : word.length + (before.length + 1) - (before.length + 1) = word.length := by omega
  have hlength : word.length ≤ s.length := by simp [hs]
  simp only [find, h, Cursor.position, List.length_append, List.length_reverse, List.length_cons,
    hskip, ne_eq, not_true_eq_false, if_false]
  rw [find_skip pattern _ _ _ hlength]
  simp [hs]

/-- What is found lies in the part of the text that is searched. -/
theorem bounds_of_mem_find {skip : Nat} {before s : Text} {span : Span}
    (h : span ∈ pattern.find skip before s) (hskip : skip ≤ s.length) :
    before.length + skip ≤ span.start ∧ span.start ≤ span.stop ∧
      span.stop ≤ before.length + s.length := by
  -- along the text; `skip` is what is left of the match found last
  induction s generalizing skip before with
  | nil =>
    obtain rfl : skip = 0 := by simpa using hskip
    simp only [find, Option.mem_toList, Option.map_eq_some_iff] at h
    rcases h with ⟨m, hm, rfl⟩
    have hbounds := bounds_of_mem_matchesAt (List.mem_of_mem_head? hm)
    simp only [Cursor.position] at hbounds
    simp only [List.length_nil] at hbounds ⊢
    omega
  | cons c s ih =>
    simp only [List.length_cons] at hskip ⊢
    simp only [find] at h
    split at h
    · have hbounds := ih h (by omega)
      simp only [List.length_cons] at hbounds
      omega
    · split at h
      · have hbounds := ih h (by omega)
        simp only [List.length_cons] at hbounds
        omega
      · rename_i m hm
        have hmatch := bounds_of_mem_matchesAt (List.mem_of_mem_head? hm)
        simp only [Cursor.position, List.length_cons] at hmatch
        rcases List.mem_cons.mp h with rfl | h
        · omega
        · have hbounds := ih h (by simp only [Cursor.position]; omega)
          simp only [List.length_cons, Cursor.position] at hbounds
          omega

/-- What is found is in order and does not overlap. -/
theorem find_pairwise (skip : Nat) (before s : Text) (hskip : skip ≤ s.length) :
    (pattern.find skip before s).Pairwise fun a b => a.stop ≤ b.start := by
  induction s generalizing skip before with
  | nil => cases (pattern.matchesAt ⟨before, []⟩).head? <;> simp_all [find]
  | cons c s ih =>
    simp only [List.length_cons] at hskip
    simp only [find]
    split
    · exact ih _ _ (by omega)
    · split
      · exact ih _ _ (by omega)
      · rename_i m hm
        have hmatch := bounds_of_mem_matchesAt (List.mem_of_mem_head? hm)
        simp only [Cursor.position, List.length_cons] at hmatch
        have hrest : m.stop.position - (before.length + 1) ≤ s.length := by
          simp only [Cursor.position]
          omega
        -- the search goes on behind the match
        refine List.pairwise_cons.mpr ⟨?_, ih _ _ hrest⟩
        intro span hspan
        have hbounds := bounds_of_mem_find pattern hspan hrest
        simp only [Cursor.position, List.length_cons] at hbounds
        omega

/-- The spans that a pattern finds are not empty and lie inside the text. -/
theorem bounds_of_mem_spans {s : Text} {span : Span} (h : span ∈ pattern.spans s) :
    span.start < span.stop ∧ span.stop ≤ s.length := by
  simp only [spans, List.mem_filter, decide_eq_true_eq] at h
  have hbounds := bounds_of_mem_find pattern h.1 (Nat.zero_le _)
  simp only [List.length_nil] at hbounds
  omega

/-- The spans that a pattern finds are in order and do not overlap. -/
theorem spans_pairwise (s : Text) : (pattern.spans s).Pairwise fun a b => a.stop ≤ b.start :=
  (find_pairwise pattern 0 [] s (Nat.zero_le _)).filter _

/-! ## Patterns that match only at the start of a text -/

/-- The pattern begins with the start of the text. -/
def Anchored : Prop := ∃ items, pattern.lead = .atStart :: items

variable {pattern}

theorem matchesAt_eq_nil_of_anchored (h : pattern.Anchored) {before : Text} (hbefore : before ≠ [])
    (s : Text) : pattern.matchesAt ⟨before, s⟩ = [] := by
  rcases h with ⟨items, hitems⟩
  simp [matchesAt, hitems, ends_cons, Item.ends, hbefore]

theorem find_eq_nil_of_anchored (h : pattern.Anchored) {before : Text} (hbefore : before ≠ [])
    (skip : Nat) (s : Text) : pattern.find skip before s = [] := by
  induction s generalizing skip before with
  | nil => simp [find, matchesAt_eq_nil_of_anchored h hbefore]
  | cons c s ih =>
    simp [find, matchesAt_eq_nil_of_anchored h hbefore, ih (List.cons_ne_nil c before)]

/-- An anchored pattern finds at most the match at the start of the text. -/
theorem find_of_anchored (h : pattern.Anchored) (s : Text) :
    pattern.find 0 [] s = ((pattern.matchesAt ⟨[], s⟩).head?.map (·.captured)).toList := by
  cases s with
  | nil => rfl
  | cons c s =>
    simp only [find, find_eq_nil_of_anchored h (List.cons_ne_nil c [])]
    cases (pattern.matchesAt ⟨[], c :: s⟩).head? <;> rfl

/-- If all matches of an anchored pattern capture one passage, the pattern finds that passage. -/
theorem spans_of_anchored (h : pattern.Anchored) {s : Text} {found : Option Passage}
    (sound : ∀ m ∈ pattern.matchesAt ⟨[], s⟩, ∃ p, found = some p ∧ m.captured = p.span)
    (complete : ∀ p, found = some p → p.text ≠ [] ∧
      ∃ m ∈ pattern.matchesAt ⟨[], s⟩, m.captured = p.span) :
    pattern.spans s = found.toList.map (·.span) := by
  rw [spans, find_of_anchored h]
  cases hfound : found with
  | none =>
    have hnil : pattern.matchesAt ⟨[], s⟩ = [] := by
      rw [List.eq_nil_iff_forall_not_mem]
      intro m hm
      rcases sound m hm with ⟨p, hp, -⟩
      simp [hfound] at hp
    simp [hnil]
  | some p =>
    rcases complete p hfound with ⟨hne, m, hm, hcaptured⟩
    have hall : ∀ m' ∈ pattern.matchesAt ⟨[], s⟩, m'.captured = p.span := by
      intro m' hm'
      rcases sound m' hm' with ⟨p', hp', hcaptured'⟩
      rw [hfound, Option.some.injEq] at hp'
      rw [hcaptured', hp']
    have hlength := List.length_pos_iff.mpr hne
    rw [head?_captured hm hall]
    simp [Passage.span, Passage.stop, hlength]

end Pattern

end MlogHighlight
