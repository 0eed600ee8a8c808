import Mathlib.Data.List.Forall2

/-!
# Mappings that may fail

A list is mapped by a function that may fail; the first failure is the result. Main facts:

* `exists_mapM_eq_ok`, `mapM_eq_ok`: the mapping succeeds if the function succeeds everywhere;
* `forall₂_of_mapM_eq_ok`: what the mapping gives is what the function gives everywhere.
-/

namespace MlogHighlight

variable {α β ε : Type} {f : α → Except ε β}

/-- The mapping succeeds if the function succeeds everywhere. -/
theorem exists_mapM_eq_ok {l : List α} (h : ∀ a ∈ l, ∃ b, f a = .ok b) :
    ∃ l', l.mapM f = .ok l' ∧ List.Forall₂ (fun a b => f a = .ok b) l l' := by
  induction l with
  | nil => exact ⟨[], rfl, List.Forall₂.nil⟩
  | cons a l ih =>
    rcases List.forall_mem_cons.mp h with ⟨⟨b, hb⟩, hl⟩
    rcases ih hl with ⟨l', hmap, hforall⟩
    refine ⟨b :: l', ?_, List.Forall₂.cons hb hforall⟩
    rw [List.mapM_cons, hb, hmap]
    rfl

/-- The mapping gives what the function gives. -/
theorem mapM_eq_ok {l : List α} {g : α → β} (h : ∀ a ∈ l, f a = .ok (g a)) :
    l.mapM f = .ok (l.map g) := by
  induction l with
  | nil => rfl
  | cons a l ih =>
    rcases List.forall_mem_cons.mp h with ⟨ha, hl⟩
    rw [List.mapM_cons, ha, ih hl]
    rfl

/-- What the mapping gives is what the function gives at each place. -/
theorem forall₂_of_mapM_eq_ok {l : List α} {l' : List β} (h : l.mapM f = .ok l') :
    List.Forall₂ (fun a b => f a = .ok b) l l' := by
  induction l generalizing l' with
  | nil =>
    obtain rfl : [] = l' := Except.ok.inj h
    exact List.Forall₂.nil
  | cons a l ih =>
    rw [List.mapM_cons] at h
    cases hb : f a with
    | error e =>
      simp [hb, bind, Except.bind] at h
    | ok b =>
      cases hmap : l.mapM f with
      | error e =>
        simp [hb, hmap, bind, Except.bind] at h
      | ok rest =>
        rw [hb, hmap] at h
        obtain rfl : b :: rest = l' := Except.ok.inj h
        exact List.Forall₂.cons hb (ih hmap)

/-- What the function gives at all places has the properties of what it gives at each. -/
theorem forall_mem_of_forall₂ {l : List α} {l' : List β} {P : β → Prop}
    (h : List.Forall₂ (fun a b => f a = .ok b) l l') (hP : ∀ a ∈ l, ∀ b, f a = .ok b → P b) :
    ∀ b ∈ l', P b := by
  induction h with
  | nil => simp
  | cons hab _ ih =>
    rcases List.forall_mem_cons.mp hP with ⟨ha, hl⟩
    exact List.forall_mem_cons.mpr ⟨ha _ hab, ih hl⟩

end MlogHighlight
