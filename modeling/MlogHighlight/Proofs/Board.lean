import Mathlib.Data.Char
import Mathlib.Data.List.Lex
import Mathlib.Data.Prod.Lex
import MlogHighlight.Proofs.Claiming

/-!
# The board

Claims are usually decided on a board that has one field for each character of the line. A span
whose fields are all free takes them, and the annotations are sorted in the end. This comes to the
same as comparing spans. Main facts:

* `Board.Shows.offer`: the fields taken are those of the spans that are kept;
* `Board.classify_eq`: the board makes the annotations of the line;
* `Board.all_or_none_of_nested`: if spans that are not apart lie inside earlier ones, no span is
  ever turned down for only a part of its characters.
-/

namespace MlogHighlight

/-- What is sorted by a key is in the order of its keys. -/
theorem pairwise_mergeSort_key {α β : Type} [LinearOrder β] (key : α → β) (l : List α) :
    (l.mergeSort fun a b => key a ≤ key b).Pairwise fun a b => key a ≤ key b := by
  have hsorted : (l.mergeSort fun a b => key a ≤ key b).Pairwise
      fun a b => decide (key a ≤ key b) = true := by
    apply List.pairwise_mergeSort
    · intro a b c hab hbc
      exact decide_eq_true (le_trans (of_decide_eq_true hab) (of_decide_eq_true hbc))
    · intro a b
      simpa using le_total (key a) (key b)
  exact hsorted.imp of_decide_eq_true

/-- The order of annotations: by start, then by stop, then by category. -/
def Annotation.key (a : Annotation) : Int ×ₗ Int ×ₗ List Char :=
  toLex (a.start, toLex (a.stop, a.category))

/-- The fields of a line, each taken or free, and the marks that took them. -/
structure Board where
  taken : List Bool
  made : List Mark
deriving DecidableEq, Repr

namespace Board

/-- All fields are free. -/
def start (line : Text) : Board := ⟨List.replicate line.length false, []⟩

/-- Is one of the fields of the span taken? -/
def anyTaken (b : Board) (span : Span) : Bool := ((b.taken.take span.stop).drop span.start).any id

/-- The fields, with those of a span taken. -/
def take (taken : List Bool) (span : Span) : List Bool :=
  taken.take span.start ++ List.replicate span.length true ++ taken.drop span.stop

/-- A mark takes its fields, unless one of them is taken. -/
def offer (b : Board) (m : Mark) : Board :=
  if b.anyTaken m.span then b else ⟨take b.taken m.span, b.made ++ [m]⟩

/-- The annotations of a line: all rules of a table offer their marks, one after the other. -/
def classify (table : RuleTable) (line : Text) (offset : Int) : List Annotation :=
  (((table.candidates line).foldl offer (start line)).made.map (·.annotate offset)).mergeSort
    fun a b => a.key ≤ b.key

variable {b : Board} {line : Text} {kept marks : List Mark} {m : Mark} {span : Span}

/-! ## Fields -/

theorem anyTaken_iff : b.anyTaken span = true ↔ ∃ i, span.Has i ∧ b.taken[i]? = some true := by
  unfold anyTaken
  rw [List.any_eq_true]
  constructor
  · intro h
    rcases h with ⟨field, hfield, htrue⟩
    rcases List.mem_iff_getElem?.mp hfield with ⟨i, hi⟩
    obtain rfl : field = true := htrue
    rw [List.getElem?_drop, List.getElem?_take] at hi
    split at hi
    · rename_i hstop
      exact ⟨span.start + i, ⟨Nat.le_add_right _ _, hstop⟩, hi⟩
    · simp at hi
  · intro h
    rcases h with ⟨i, ⟨hstart, hstop⟩, hi⟩
    refine ⟨true, List.mem_iff_getElem?.mpr ⟨i - span.start, ?_⟩, rfl⟩
    have hindex : span.start + (i - span.start) = i := by omega
    rw [List.getElem?_drop, List.getElem?_take, hindex, if_pos hstop, hi]

variable {taken : List Bool}

/-- Taking fields does not change their number. -/
theorem length_take (hspan : span.start < span.stop) (hstop : span.stop ≤ taken.length) :
    (take taken span).length = taken.length := by
  simp only [take, Span.length, List.length_append, List.length_take, List.length_replicate,
    List.length_drop]
  omega

theorem getElem?_take (hspan : span.start < span.stop) (hstop : span.stop ≤ taken.length) (i : Nat) :
    (take taken span)[i]? = some true ↔ span.Has i ∨ taken[i]? = some true := by
  have hfront : (taken.take span.start).length = span.start := by
    rw [List.length_take]
    omega
  have hmiddle : (taken.take span.start ++ List.replicate span.length true).length = span.stop := by
    rw [List.length_append, hfront, List.length_replicate, Span.length]
    omega
  unfold take Span.Has
  by_cases hi : i < span.stop
  · rw [List.getElem?_append_left (by omega)]
    by_cases hi' : i < span.start
    · rw [List.getElem?_append_left (by omega), List.getElem?_take, if_pos hi']
      constructor
      · exact Or.inr
      · rintro (⟨hle, -⟩ | h)
        · omega
        · exact h
    · have hfield : i - span.start < span.length := by
        unfold Span.length
        omega
      rw [List.getElem?_append_right (by omega), hfront, List.getElem?_replicate, if_pos hfield]
      exact iff_of_true rfl (Or.inl ⟨by omega, hi⟩)
  · have hindex : span.stop + (i - span.stop) = i := by omega
    rw [List.getElem?_append_right (by omega), hmiddle, List.getElem?_drop, hindex]
    constructor
    · exact Or.inr
    · rintro (⟨-, hlt⟩ | h)
      · exact absurd hlt hi
      · exact h

/-! ## The invariant -/

/-- The fields taken are those of the marks that are kept, and these are the marks made. -/
structure Shows (b : Board) (line : Text) (kept : List Mark) : Prop where
  length : b.taken.length = line.length
  fields : ∀ i, b.taken[i]? = some true ↔ ∃ k ∈ kept, k.span.Has i
  made : b.made.Perm kept

theorem shows_start (line : Text) : Shows (start line) line [] := by
  constructor
  · exact List.length_replicate ..
  · intro i
    simp [start, List.getElem?_replicate]
  · exact List.Perm.refl _

theorem perm_insert (m : Mark) (kept : List Mark) : (m.insert kept).Perm (m :: kept) := by
  induction kept with
  | nil => exact List.Perm.refl _
  | cons k kept ih =>
    unfold Mark.insert
    split
    · exact List.Perm.refl _
    · exact (ih.cons k).trans (List.Perm.swap m k kept)

/-- The board turns a mark down just if the mark overlaps one that is kept. -/
theorem anyTaken_eq (h : Shows b line kept) (hkept : ∀ k ∈ kept, k.span.start < k.span.stop)
    (hm : m.span.start < m.span.stop) :
    b.anyTaken m.span = kept.any fun k => k.span.overlaps m.span := by
  rw [Bool.eq_iff_iff, anyTaken_iff, List.any_eq_true]
  constructor
  · rintro ⟨i, hi, htaken⟩
    rcases (h.fields i).mp htaken with ⟨k, hk, hki⟩
    exact ⟨k, hk, (Span.meets_iff (hkept k hk) hm).mp ⟨i, hki, hi⟩⟩
  · rintro ⟨k, hk, hoverlaps⟩
    rcases (Span.meets_iff (hkept k hk) hm).mpr hoverlaps with ⟨i, hki, hi⟩
    exact ⟨i, hi, (h.fields i).mpr ⟨k, hk, hki⟩⟩

/-- An offer on the board is a claim. -/
theorem Shows.offer (h : Shows b line kept) (hkept : ∀ k ∈ kept, k.span.start < k.span.stop)
    (hm : m.span.start < m.span.stop) (hstop : m.span.stop ≤ line.length) :
    Shows (b.offer m) line (Mark.claim kept m) := by
  have hstop' : m.span.stop ≤ b.taken.length := by
    rw [h.length]
    exact hstop
  unfold Board.offer Mark.claim
  rw [anyTaken_eq h hkept hm]
  split
  · exact h
  · constructor
    · rw [length_take hm hstop', h.length]
    · intro i
      rw [getElem?_take hm hstop', h.fields]
      constructor
      · rintro (hi | ⟨k, hk, hki⟩)
        · exact ⟨m, Mark.mem_insert.mpr (Or.inl rfl), hi⟩
        · exact ⟨k, Mark.mem_insert.mpr (Or.inr hk), hki⟩
      · rintro ⟨k, hk, hki⟩
        rcases Mark.mem_insert.mp hk with rfl | hk
        · exact Or.inl hki
        · exact Or.inr ⟨k, hk, hki⟩
    · have hmade := (List.perm_append_singleton m b.made).trans (h.made.cons m)
      exact hmade.trans (perm_insert m kept).symm

theorem Shows.foldl_offer (h : Shows b line kept) (hkept : ∀ k ∈ kept, k.span.start < k.span.stop)
    (hmarks : ∀ m ∈ marks, m.span.start < m.span.stop ∧ m.span.stop ≤ line.length) :
    Shows (marks.foldl Board.offer b) line (marks.foldl Mark.claim kept) := by
  -- the marks kept so far are never empty, which the comparison of spans relies on
  induction marks generalizing b kept with
  | nil => exact h
  | cons m marks ih =>
    rcases List.forall_mem_cons.mp hmarks with ⟨⟨hm, hstop⟩, hmarks⟩
    refine ih (h.offer hkept hm hstop) ?_ hmarks
    intro k hk
    rcases Mark.mem_claim.mp hk with hk | ⟨rfl, -⟩
    · exact hkept k hk
    · exact hm

/-! ## The annotations -/

/-- The board makes the annotations of the line. -/
theorem classify_eq (table : RuleTable) (line : Text) (offset : Int) :
    classify table line offset = table.classify line offset := by
  have hshows : Shows ((table.candidates line).foldl offer (start line)) line (table.marks line) :=
    (shows_start line).foldl_offer (by simp) fun m hm => RuleTable.bounds_of_mem_candidates hm
  have hsorted : (classify table line offset).Pairwise fun a b => a.key ≤ b.key :=
    pairwise_mergeSort_key Annotation.key _
  have hordered : (table.classify line offset).Pairwise fun a b => a.key ≤ b.key := by
    apply (table.classify_separate line offset).imp
    intro a b hab
    exact Prod.Lex.toLex_le_toLex.mpr (Or.inl hab.1)
  have hperm : (classify table line offset).Perm (table.classify line offset) :=
    (List.mergeSort_perm ..).trans (hshows.made.map _)
  refine hperm.eq_of_pairwise ?_ hsorted hordered
  intro a b _ _ hab hba
  have hkey := le_antisymm hab hba
  simp only [EmbeddingLike.apply_eq_iff_eq, Prod.mk.injEq, Annotation.key] at hkey
  cases a
  cases b
  simp_all

/-! ## Spans that lie inside each other -/

/-- The second mark lies inside the first one, or is apart from it. -/
def Nested (k m : Mark) : Prop := m.span.Inside k.span ∨ k.span.Apart m.span

/-- If marks lie inside earlier ones or are apart from them, the board finds the fields of a mark
all taken or all free. -/
theorem all_or_none_of_nested (hnested : (marks ++ [m]).Pairwise Nested)
    (hmarks : ∀ m ∈ marks, m.span.start < m.span.stop ∧ m.span.stop ≤ line.length)
    (hstop : m.span.stop ≤ line.length) :
    (∀ i, m.span.Has i → (marks.foldl offer (start line)).taken[i]? = some true) ∨
      ∀ i, m.span.Has i → (marks.foldl offer (start line)).taken[i]? = some false := by
  have hshows := (shows_start line).foldl_offer (by simp) hmarks
  have hkept : ∀ k ∈ marks.foldl Mark.claim [], Nested k m := by
    intro k hk
    rcases Mark.mem_of_mem_foldl_claim hk with hk | hk
    · simp at hk
    · exact (List.pairwise_append.mp hnested).2.2 k hk m (by simp)
  by_cases hinside : ∃ k ∈ marks.foldl Mark.claim [], m.span.Inside k.span
  · left
    rcases hinside with ⟨k, hk, hstart, hstop⟩
    rintro i ⟨hi, hi'⟩
    exact (hshows.fields i).mpr ⟨k, hk, by omega, by omega⟩
  · right
    rintro i ⟨hi, hi'⟩
    have hfree : (marks.foldl offer (start line)).taken[i]? ≠ some true := by
      intro htaken
      rcases (hshows.fields i).mp htaken with ⟨k, hk, hki, hki'⟩
      rcases hkept k hk with h | h | h
      · exact hinside ⟨k, hk, h⟩
      · omega
      · omega
    have hlength : i < (marks.foldl offer (start line)).taken.length := by
      rw [hshows.length]
      omega
    rw [List.getElem?_eq_getElem hlength] at hfree ⊢
    simpa using hfree

end Board

end MlogHighlight
