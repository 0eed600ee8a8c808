/-!
# Tables of code points

A character class is a table of ranges of code points, both ends included, ascending and disjoint.
A lookup stops at the first range that lies beyond the code point, so common characters, which
come early, are found early.
-/

namespace MlogHighlight.Unicode

/-- A set of code points. -/
abbrev Ranges := List (Nat × Nat)

/-- Is the code point in one of the ranges? -/
def Ranges.contains : Ranges → Nat → Bool
  | [], _ => false
  | (lo, hi) :: rest, n => if n < lo then false else if n ≤ hi then true else Ranges.contains rest n

/-- Ranges of code points, each with what is known about its members. -/
abbrev RangeMap (α : Type) := List (Nat × Nat × α)

/-- The range a code point is in: its distance from the start of the range, and what the range
says. -/
def RangeMap.find? {α : Type} : RangeMap α → Nat → Option (Nat × α)
  | [], _ => none
  | (lo, hi, a) :: rest, n =>
    if n < lo then none else if n ≤ hi then some (n - lo, a) else RangeMap.find? rest n

/-- What holds of the first 128 characters one by one holds of every ASCII character. -/
theorem forall_ascii {P : Char → Prop} (h : ∀ n < 128, P (Char.ofNat n)) (c : Char)
    (hc : c.toNat < 128) : P c := by
  have hchar := h c.toNat hc
  rwa [Char.ofNat_toNat] at hchar

/-- A character in front of an ASCII character is one as well. -/
theorem toNat_lt_of_le {c last : Char} (h : c ≤ last) (hlast : last.toNat < 128) : c.toNat < 128 :=
  Nat.lt_of_le_of_lt (UInt32.le_iff_toNat_le.mp h) hlast

end MlogHighlight.Unicode
