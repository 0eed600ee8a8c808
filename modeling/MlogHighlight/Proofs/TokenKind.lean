import Mathlib.Data.List.Nodup
import MlogHighlight.Highlight.Token

/-!
# Kinds of tokens

Each category is highlighted as a kind of token of its own, and plain tokens are of one more kind, so
the kind of a token says no less than its category. Main facts:

* `Category.kinds`: the table of the kinds, by the names of the categories;
* `Category.lookup_kinds`: a name is in the table when it is that of a category;
* `Category.tokenKind_injective`, `Category.tokenKind_ne_text`: the kinds are distinct;
* `Token.kind_eq_text_iff`, `Token.kind_eq_kind_iff`: what the kind of a token says.
-/

namespace MlogHighlight

namespace Category

/-- The kinds of tokens, by the names of the categories that are highlighted as them. -/
def kinds : List (Text × Text) :=
  [("function-name", "Token.Name.Function"), ("variable", "Token.Name.Variable"),
    ("keyword", "Token.Keyword"), ("comment", "Token.Comment.Single"),
    ("type", "Token.Keyword.Type"), ("constant", "Token.Name.Constant"),
    ("builtin", "Token.Name.Builtin")]

theorem mem_all (c : Category) : c ∈ all := by
  cases c <;> decide

/-- A name is in the table when it is that of a category, with the kind of that category. -/
theorem lookup_kinds (name : Text) : kinds.lookup name = (ofName? name).map tokenKind := by
  -- both go down the list of all categories
  have hlookup : ∀ categories : List Category,
      (categories.map fun c => (c.name, c.tokenKind)).lookup name =
        (categories.find? (·.name = name)).map tokenKind := by
    intro categories
    induction categories with
    | nil => rfl
    | cons c categories ih =>
      rw [List.map_cons, List.lookup_cons, List.find?_cons, ih]
      by_cases hname : c.name = name
      · simp [hname]
      · have hne : (name == c.name) = false := beq_false_of_ne (Ne.symm hname)
        simp [hname, hne]
  exact hlookup all

theorem tokenKind_injective : Function.Injective tokenKind := by
  intro c c' hkind
  have hnodup : (all.map tokenKind).Nodup := by decide +kernel
  exact List.inj_on_of_nodup_map hnodup (mem_all c) (mem_all c') hkind

theorem tokenKind_ne_text (c : Category) : c.tokenKind ≠ "Token.Text" := by
  cases c <;> decide +kernel

end Category

namespace Token

variable {t : Token}

theorem kind_eq_text_iff : t.kind = "Token.Text" ↔ t.category = none := by
  unfold kind
  cases t.category with
  | none => simp
  | some c => simpa using c.tokenKind_ne_text

theorem some_kind (h : t.category.isSome) : some t.kind = t.category.map Category.tokenKind := by
  rcases Option.isSome_iff_exists.mp h with ⟨c, hc⟩
  simp only [kind, hc, Option.map_some]

/-- Two tokens are of one kind when they are of one category, or both plain. -/
theorem kind_eq_kind_iff {t' : Token} : t.kind = t'.kind ↔ t.category = t'.category := by
  constructor
  · intro hkind
    cases hc : t.category with
    | none =>
      rw [kind_eq_text_iff.mpr hc] at hkind
      exact (kind_eq_text_iff.mp hkind.symm).symm
    | some c =>
      cases hc' : t'.category with
      | none =>
        rw [kind_eq_text_iff.mpr hc'] at hkind
        rw [kind_eq_text_iff.mp hkind] at hc
        contradiction
      | some c' =>
        simp only [kind, hc, hc'] at hkind
        rw [Category.tokenKind_injective hkind]
  · intro hcategory
    unfold kind
    rw [hcategory]

theorem filter_kind (tokens : List Token) :
    tokens.filter (·.kind ≠ ("Token.Text" : Text)) = tokens.filter (·.category.isSome) := by
  apply List.filter_congr
  intro t _
  rw [Bool.eq_iff_iff, decide_eq_true_eq, ne_eq, kind_eq_text_iff, Option.isSome_iff_ne_none]

end Token

end MlogHighlight
