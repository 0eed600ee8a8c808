import Mathlib.Data.Set.Basic
import MlogHighlight.Classification
import MlogHighlight.Proofs.Matcher

/-!
# Claiming

The rules of a table claim spans one after the other, and a span is kept if it is apart from all
that were kept before. The spans of one rule never compete with each other, so what is kept depends
on the rules before only. Main facts:

* `Mark.mem_foldl_claim`: what the claims of one rule add;
* `RuleTable.marks_separate`: what is kept is in order and does not overlap;
* `RuleTable.classify_firstClaims`: the spans that are kept are the only family in which a span is
  missing just if a rule before has a character of it.
-/

namespace MlogHighlight

namespace Mark

variable {m k : Mark} {kept marks : List Mark}

/-- The marks are not empty, in order, and do not overlap. -/
structure Separate (marks : List Mark) : Prop where
  nonempty : ∀ m ∈ marks, m.span.start < m.span.stop
  ordered : marks.Pairwise fun a b => a.span.stop ≤ b.span.start

theorem mem_insert : k ∈ m.insert kept ↔ k = m ∨ k ∈ kept := by
  induction kept with
  | nil => simp [insert]
  | cons first kept ih =>
    unfold insert
    split
    · rw [List.mem_cons]
    · rw [List.mem_cons, ih, List.mem_cons]
      exact or_left_comm

/-- What does not overlap any mark is apart from all marks. -/
theorem apart_of_not_any (h : ¬ (kept.any fun k => k.span.overlaps m.span) = true) :
    ∀ k ∈ kept, k.span.Apart m.span := by
  intro k hk
  rw [← Span.overlaps_eq_false, ← Bool.not_eq_true]
  intro hoverlaps
  exact h (List.any_eq_true.mpr ⟨k, hk, hoverlaps⟩)

theorem mem_claim :
    k ∈ claim kept m ↔ k ∈ kept ∨ k = m ∧ ∀ k' ∈ kept, k'.span.Apart m.span := by
  unfold claim
  split
  · rename_i hany
    rcases List.any_eq_true.mp hany with ⟨k', hk', hoverlaps⟩
    constructor
    · exact Or.inl
    · intro h
      rcases h with hk | ⟨-, hapart⟩
      · exact hk
      · have hfalse := Span.overlaps_eq_false.mpr (hapart k' hk')
        rw [hoverlaps] at hfalse
        exact Bool.noConfusion hfalse
  · rename_i hnone
    rw [mem_insert]
    constructor
    · intro h
      rcases h with hk | hk
      · exact Or.inr ⟨hk, apart_of_not_any hnone⟩
      · exact Or.inl hk
    · intro h
      rcases h with hk | ⟨hk, -⟩
      · exact Or.inr hk
      · exact Or.inl hk

theorem separate_nil : Separate [] := ⟨by simp, List.Pairwise.nil⟩

theorem separate_cons : Separate (m :: marks) ↔
    m.span.start < m.span.stop ∧ (∀ k ∈ marks, m.span.stop ≤ k.span.start) ∧ Separate marks := by
  constructor
  · intro h
    rcases h with ⟨hne, hordered⟩
    rcases List.pairwise_cons.mp hordered with ⟨hfirst, hrest⟩
    rcases List.forall_mem_cons.mp hne with ⟨hm, hmarks⟩
    exact ⟨hm, hfirst, hmarks, hrest⟩
  · intro h
    rcases h with ⟨hm, hfirst, hmarks, hrest⟩
    exact ⟨List.forall_mem_cons.mpr ⟨hm, hmarks⟩, List.pairwise_cons.mpr ⟨hfirst, hrest⟩⟩

/-- A mark that is apart from all others can be added in its place. -/
theorem Separate.insert (h : Separate kept) (hm : m.span.start < m.span.stop)
    (hapart : ∀ k ∈ kept, k.span.Apart m.span) : Separate (m.insert kept) := by
  induction kept with
  | nil => exact separate_cons.mpr ⟨hm, by simp, h⟩
  | cons first kept ih =>
    rcases separate_cons.mp h with ⟨hfirst, hbehind, hkept⟩
    have hside := hapart first (by simp)
    unfold Mark.insert
    split
    · -- in front of the first mark, and so of all
      have hgap : m.span.stop ≤ first.span.start := by
        rcases hside with hside | hside <;> omega
      refine separate_cons.mpr ⟨hm, ?_, h⟩
      intro k hk
      rcases List.mem_cons.mp hk with rfl | hk
      · exact hgap
      · have hlater := hbehind k hk
        omega
    · -- somewhere behind the first mark
      refine separate_cons.mpr ⟨hfirst, ?_, ih hkept fun k hk => hapart k (List.mem_cons_of_mem _ hk)⟩
      intro k hk
      rcases mem_insert.mp hk with rfl | hk
      · rcases hside with hside | hside <;> omega
      · exact hbehind k hk

theorem Separate.nodup (h : Separate marks) : marks.Nodup := by
  apply h.ordered.imp_of_mem
  intro a b ha hb hab heq
  have hne := h.nonempty a ha
  rw [← heq] at hab
  omega

/-- Marks that start at the same place are the same mark. -/
theorem Separate.eq_of_start_eq (h : Separate marks) (hm : m ∈ marks) (hk : k ∈ marks)
    (heq : m.span.start = k.span.start) : m = k := by
  have hapart : marks.Pairwise fun a b => a.span.Apart b.span := h.ordered.imp Or.inl
  have : Std.Symm fun a b : Mark => a.span.Apart b.span := ⟨fun _ _ h => h.symm⟩
  by_contra hne
  have hstart := h.nonempty m hm
  have hstart' := h.nonempty k hk
  rcases hapart.forall hm hk hne with h | h <;> omega

/-- Marks in order are known from their members. -/
theorem Separate.eq_of_mem_iff (hmarks : Separate marks) (hkept : Separate kept)
    (h : ∀ m, m ∈ marks ↔ m ∈ kept) : marks = kept := by
  have hperm := (List.perm_ext_iff_of_nodup hmarks.nodup hkept.nodup).mpr h
  refine hperm.eq_of_pairwise ?_ hmarks.ordered hkept.ordered
  intro a b ha hb hab hba
  have hfirst := hmarks.nonempty a ha
  have hsecond := hkept.nonempty b hb
  omega

theorem Separate.claim (h : Separate kept) (hm : m.span.start < m.span.stop) :
    Separate (claim kept m) := by
  unfold Mark.claim
  split
  · exact h
  · rename_i hnone
    exact h.insert hm (apart_of_not_any hnone)

theorem Separate.foldl_claim (h : Separate kept) (hmarks : ∀ m ∈ marks, m.span.start < m.span.stop) :
    Separate (marks.foldl Mark.claim kept) := by
  induction marks generalizing kept with
  | nil => exact h
  | cons m marks ih =>
    rcases List.forall_mem_cons.mp hmarks with ⟨hm, hmarks⟩
    exact ih (h.claim hm) hmarks

theorem mem_of_mem_foldl_claim (h : k ∈ marks.foldl claim kept) : k ∈ kept ∨ k ∈ marks := by
  induction marks generalizing kept with
  | nil => exact Or.inl h
  | cons m marks ih =>
    rcases ih h with h | h
    · rcases mem_claim.mp h with h | ⟨rfl, -⟩
      · exact Or.inl h
      · exact Or.inr (List.mem_cons_self ..)
    · exact Or.inr (List.mem_cons_of_mem _ h)

/-- Marks that do not overlap each other are kept unless they overlap what was kept before. -/
theorem mem_foldl_claim (hmarks : marks.Pairwise fun a b => a.span.Apart b.span) :
    k ∈ marks.foldl claim kept ↔ k ∈ kept ∨ k ∈ marks ∧ ∀ k' ∈ kept, k'.span.Apart k.span := by
  -- the first mark, be it kept or not, is apart from those behind it
  induction marks generalizing kept with
  | nil => simp
  | cons m marks ih =>
    rcases List.pairwise_cons.mp hmarks with ⟨hfirst, hrest⟩
    rw [List.foldl_cons, ih hrest, mem_claim, List.mem_cons]
    constructor
    · intro h
      rcases h with (hk | ⟨rfl, hapart⟩) | ⟨hk, hapart⟩
      · exact Or.inl hk
      · exact Or.inr ⟨Or.inl rfl, hapart⟩
      · exact Or.inr ⟨Or.inr hk, fun k' hk' => hapart k' (mem_claim.mpr (Or.inl hk'))⟩
    · intro h
      rcases h with hk | ⟨rfl | hk, hapart⟩
      · exact Or.inl (Or.inl hk)
      · exact Or.inl (Or.inr ⟨rfl, hapart⟩)
      · refine Or.inr ⟨hk, ?_⟩
        intro k' hk'
        rcases mem_claim.mp hk' with hk' | ⟨rfl, -⟩
        · exact hapart k' hk'
        · exact hfirst k hk

end Mark

/-! ## The claims of a table -/

namespace Rule

variable {rule : Rule} {line : Text} {m : Mark}

theorem mem_marks :
    m ∈ rule.marks line ↔ m.span ∈ rule.matcher.spans line ∧ m.category = rule.category := by
  unfold marks
  rw [List.mem_map]
  constructor
  · intro h
    rcases h with ⟨span, hspan, rfl⟩
    exact ⟨hspan, rfl⟩
  · intro h
    rcases h with ⟨hspan, hcategory⟩
    exact ⟨m.span, hspan, by rw [← hcategory]⟩

theorem bounds_of_mem_marks (h : m ∈ rule.marks line) :
    m.span.start < m.span.stop ∧ m.span.stop ≤ line.length :=
  Matcher.bounds_of_mem_spans (mem_marks.mp h).1

theorem marks_pairwise (rule : Rule) (line : Text) :
    (rule.marks line).Pairwise fun a b => a.span.Apart b.span :=
  (rule.matcher.spans_pairwise line).map _ fun _ _ h => Or.inl h

end Rule

namespace RuleTable

variable {table : RuleTable} {line : Text} {m : Mark}

theorem bounds_of_mem_candidates (h : m ∈ table.candidates line) :
    m.span.start < m.span.stop ∧ m.span.stop ≤ line.length := by
  rcases List.mem_flatMap.mp h with ⟨rule, -, hm⟩
  exact Rule.bounds_of_mem_marks hm

theorem candidates_cons (rule : Rule) (table : RuleTable) (line : Text) :
    candidates (rule :: table) line = rule.marks line ++ table.candidates line :=
  List.flatMap_cons

/-- Rules that mark nothing in a line can be left out. -/
theorem candidates_filter {p : Rule → Bool}
    (h : ∀ rule ∈ table, p rule = false → rule.marks line = []) :
    candidates (table.filter p) line = table.candidates line := by
  induction table with
  | nil => rfl
  | cons rule table ih =>
    rcases List.forall_mem_cons.mp h with ⟨hrule, htable⟩
    cases hp : p rule with
    | true => rw [List.filter_cons_of_pos hp, candidates_cons, candidates_cons, ih htable]
    | false =>
      rw [List.filter_cons_of_neg (by simp [hp]), ih htable, candidates_cons, hrule hp,
        List.nil_append]

/-- The marks of a line are not empty, in order, and do not overlap. -/
theorem marks_separate (table : RuleTable) (line : Text) : Mark.Separate (table.marks line) :=
  Mark.separate_nil.foldl_claim fun _ hm => (bounds_of_mem_candidates hm).1

theorem mem_candidates_of_mem_marks (h : m ∈ table.marks line) : m ∈ table.candidates line := by
  rcases Mark.mem_of_mem_foldl_claim h with h | h
  · simp at h
  · exact h

theorem stop_le_of_mem_marks (h : m ∈ table.marks line) : m.span.stop ≤ line.length :=
  (bounds_of_mem_candidates (mem_candidates_of_mem_marks h)).2

/-- What one more rule adds to the marks of a line. -/
theorem mem_marks_concat {rule : Rule} : m ∈ marks (table ++ [rule]) line ↔
    m ∈ table.marks line ∨ m ∈ rule.marks line ∧ ∀ k ∈ table.marks line, k.span.Apart m.span := by
  have hfold : marks (table ++ [rule]) line =
      (rule.marks line).foldl Mark.claim (table.marks line) := by
    simp [marks, candidates, List.flatMap_append, List.foldl_append]
  rw [hfold, Mark.mem_foldl_claim (rule.marks_pairwise line)]

/-! ## The family of the spans that are kept -/

/-- The rule with this number finds the span. -/
def Finds (table : RuleTable) (line : Text) (k : Nat) (span : Span) : Prop :=
  ∃ rule, table[k]? = some rule ∧ span ∈ rule.matcher.spans line

/-- A family of spans, each with the number of its rule: a span that a rule finds is in the family
if no span of the family that a rule before finds has a character in common with it. -/
def FirstClaims (table : RuleTable) (line : Text) (family : Set (Nat × Span)) : Prop :=
  ∀ k span, (k, span) ∈ family ↔ table.Finds line k span ∧
    ∀ k' span', (k', span') ∈ family → k' < k → ¬ span'.Meets span

/-- The spans that are kept, each with the number of its rule. -/
def keptFamily (table : RuleTable) (line : Text) : Set (Nat × Span) :=
  {c | table.Finds line c.1 c.2 ∧ ∀ m ∈ marks (table.take c.1) line, m.span.Apart c.2}

theorem nonempty_of_finds {k : Nat} {span : Span} (h : table.Finds line k span) :
    span.start < span.stop := by
  rcases h with ⟨rule, -, hspan⟩
  exact (Matcher.bounds_of_mem_spans hspan).1

/-- The marks of the first rules are the members of the family with these rules. -/
theorem mem_marks_take {n : Nat} : m ∈ marks (table.take n) line ↔
    ∃ k rule, k < n ∧ table[k]? = some rule ∧ (k, m.span) ∈ table.keptFamily line ∧
      m.category = rule.category := by
  -- on the number of rules: the last one adds what is apart from the marks of those before
  induction n generalizing m with
  | zero => simp [marks, candidates]
  | succ n ih =>
    cases hrule : table[n]? with
    | none =>
      have htake : table.take (n + 1) = table.take n := by
        have hlength := List.getElem?_eq_none_iff.mp hrule
        rw [List.take_of_length_le hlength, List.take_of_length_le (by omega)]
      rw [htake, ih]
      constructor
      · intro h
        rcases h with ⟨k, rule, hk, hmember⟩
        exact ⟨k, rule, by omega, hmember⟩
      · intro h
        rcases h with ⟨k, rule, hk, hnumber, hmember⟩
        have hne : k ≠ n := by
          rintro rfl
          simp [hrule] at hnumber
        exact ⟨k, rule, by omega, hnumber, hmember⟩
    | some rule =>
      have htake : table.take (n + 1) = table.take n ++ [rule] := by
        rw [List.take_add_one, hrule, Option.toList_some]
      rw [htake, mem_marks_concat, Rule.mem_marks, ih]
      constructor
      · intro h
        rcases h with ⟨k, rule', hk, hmember⟩ | ⟨⟨hspan, hcategory⟩, hapart⟩
        · exact ⟨k, rule', by omega, hmember⟩
        · exact ⟨n, rule, by omega, hrule, ⟨⟨rule, hrule, hspan⟩, hapart⟩, hcategory⟩
      · intro h
        rcases h with ⟨k, rule', hk, hnumber, hmember, hcategory⟩
        rcases Nat.lt_succ_iff_lt_or_eq.mp hk with hk | rfl
        · exact Or.inl ⟨k, rule', hk, hnumber, hmember, hcategory⟩
        · rw [hrule, Option.some.injEq] at hnumber
          rcases hmember with ⟨⟨found, hfound, hspan⟩, hapart⟩
          rw [hrule, Option.some.injEq] at hfound
          subst hnumber hfound
          exact Or.inr ⟨⟨hspan, hcategory⟩, hapart⟩

theorem firstClaims_keptFamily (table : RuleTable) (line : Text) :
    table.FirstClaims line (table.keptFamily line) := by
  intro k span
  constructor
  · intro h
    rcases h with ⟨hfinds, hapart⟩
    refine ⟨hfinds, ?_⟩
    intro k' span' hmember hk'
    rcases hmember.1 with ⟨rule, hnumber, hspan'⟩
    have hmark : (⟨span', rule.category⟩ : Mark) ∈ marks (table.take k) line :=
      mem_marks_take.mpr ⟨k', rule, hk', hnumber, hmember, rfl⟩
    rw [Span.not_meets_iff (nonempty_of_finds hmember.1) (nonempty_of_finds hfinds)]
    exact hapart _ hmark
  · intro h
    rcases h with ⟨hfinds, hfree⟩
    refine ⟨hfinds, ?_⟩
    intro m hm
    rcases mem_marks_take.mp hm with ⟨k', rule, hk', -, hmember, -⟩
    rw [← Span.not_meets_iff (nonempty_of_finds hmember.1) (nonempty_of_finds hfinds)]
    exact hfree k' m.span hmember hk'

/-- The rules decide one after the other, so there is only one such family. -/
theorem FirstClaims.unique {family family' : Set (Nat × Span)} (h : table.FirstClaims line family)
    (h' : table.FirstClaims line family') : family = family' := by
  have hsame : ∀ k span, (k, span) ∈ family ↔ (k, span) ∈ family' := by
    intro k
    -- what rule `k` keeps depends on the members of rules before `k` only
    induction k using Nat.strongRecOn with
    | _ k ih =>
      intro span
      rw [h k span, h' k span]
      constructor
      · rintro ⟨hfinds, hfree⟩
        exact ⟨hfinds, fun k' span' hmember hk' => hfree k' span' ((ih k' hk' span').mpr hmember) hk'⟩
      · rintro ⟨hfinds, hfree⟩
        exact ⟨hfinds, fun k' span' hmember hk' => hfree k' span' ((ih k' hk' span').mp hmember) hk'⟩
  ext ⟨k, span⟩
  exact hsame k span

/-- Two members of the family have no character in common. -/
theorem FirstClaims.disjoint {family : Set (Nat × Span)} (h : table.FirstClaims line family)
    {k k' : Nat} {span span' : Span} (hmember : (k, span) ∈ family) (hmember' : (k', span') ∈ family)
    (hne : (k, span) ≠ (k', span')) : ¬ span.Meets span' := by
  rcases (h k span).mp hmember with ⟨⟨rule, hnumber, hspan⟩, hfree⟩
  rcases (h k' span').mp hmember' with ⟨⟨rule', hnumber', hspan'⟩, hfree'⟩
  rcases Nat.lt_trichotomy k k' with hk | rfl | hk
  · exact hfree' k span hmember hk
  · -- one rule finds both of them
    rw [hnumber, Option.some.injEq] at hnumber'
    subst hnumber'
    rcases Span.eq_or_apart (rule.matcher.spans_pairwise line) hspan hspan' with rfl | hapart
    · exact absurd rfl hne
    · exact (Span.not_meets_iff (Matcher.bounds_of_mem_spans hspan).1
        (Matcher.bounds_of_mem_spans hspan').1).mpr hapart
  · rintro ⟨i, hi, hi'⟩
    exact hfree k' span' hmember' hk ⟨i, hi', hi⟩

/-! ## Classification -/

variable (table line)

/-- The annotations of a line are in order, do not overlap and are not empty. -/
theorem classify_separate (offset : Int) : (table.classify line offset).Pairwise fun a b =>
    a.start < b.start ∧ a.stop ≤ b.start := by
  have hseparate := table.marks_separate line
  unfold classify
  rw [List.pairwise_map]
  apply hseparate.ordered.imp_of_mem
  intro a b ha hb hab
  have hne := hseparate.nonempty a ha
  simp only [Mark.annotate]
  omega

theorem bounds_of_mem_classify {offset : Int} {a : Annotation} (h : a ∈ table.classify line offset) :
    offset ≤ a.start ∧ a.start < a.stop ∧ a.stop ≤ offset + line.length := by
  rcases List.mem_map.mp h with ⟨m, hm, rfl⟩
  have hne := (table.marks_separate line).nonempty m hm
  have hstop := stop_le_of_mem_marks hm
  simp only [Mark.annotate]
  omega

theorem mem_classify {offset : Int} {a : Annotation} : a ∈ table.classify line offset ↔
    ∃ k span rule, (k, span) ∈ table.keptFamily line ∧ table[k]? = some rule ∧
      a = ⟨span.start + offset, span.stop + offset, rule.category⟩ := by
  have htable : table.marks line = marks (table.take table.length) line := by
    rw [List.take_length]
  unfold classify
  simp only [List.mem_map, htable, mem_marks_take]
  constructor
  · intro h
    rcases h with ⟨m, ⟨k, rule, -, hnumber, hmember, hcategory⟩, rfl⟩
    exact ⟨k, m.span, rule, hmember, hnumber, by rw [← hcategory]; rfl⟩
  · intro h
    rcases h with ⟨k, span, rule, hmember, hnumber, rfl⟩
    have hk := (List.getElem?_eq_some_iff.mp hnumber).1
    exact ⟨⟨span, rule.category⟩, ⟨k, rule, hk, hnumber, hmember, rfl⟩, rfl⟩

/-- The first rule to claim a character wins. There is only one family of spans in which a span that
a rule finds is missing just if a rule before has a character of it, and the annotations of a line
are those of its members, each with the category of its own rule. They are in order, do not
overlap, are not empty and lie inside the line. -/
theorem classify_firstClaims (offset : Int) :
    ∃ family, (table.FirstClaims line family ∧
        ∀ family', table.FirstClaims line family' → family' = family) ∧
      (∀ a, a ∈ table.classify line offset ↔
        ∃ k span rule, (k, span) ∈ family ∧ table[k]? = some rule ∧
          a = ⟨span.start + offset, span.stop + offset, rule.category⟩) ∧
      (∀ c ∈ family, ∀ c' ∈ family, c ≠ c' → ¬ c.2.Meets c'.2) ∧
      ((table.classify line offset).Pairwise fun a b => a.start < b.start ∧ a.stop ≤ b.start) ∧
      ∀ a ∈ table.classify line offset,
        offset ≤ a.start ∧ a.start < a.stop ∧ a.stop ≤ offset + line.length := by
  have hclaims := table.firstClaims_keptFamily line
  refine ⟨table.keptFamily line, ⟨hclaims, fun family' h => h.unique hclaims⟩, ?_, ?_, ?_, ?_⟩
  · intro a
    exact mem_classify table line
  · intro c hc c' hc' hne
    exact hclaims.disjoint hc hc' hne
  · exact table.classify_separate line offset
  · intro a ha
    exact table.bounds_of_mem_classify line ha

end RuleTable

end MlogHighlight
