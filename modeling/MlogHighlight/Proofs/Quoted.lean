import Mathlib.Algebra.GroupWithZero.Nat
import Mathlib.Data.List.Chain
import MlogHighlight.Text.Quoted
import MlogHighlight.Vocabulary.Element

/-!
# Quoted texts can be read back

The form of a character in a quoted text says where it ends: an escape has a fixed number of digits,
and all else is one character, or two behind a backslash. And the quote in use stands inside the
quotes behind a backslash only, so a line that ends in a quoted text shows where it begins. Main
facts:

* `ofNat_injective`: a number is known by its decimal form;
* `readChar_quoteChar`: the form of a character can be read back, whatever follows it;
* `lineFeed_notMem_quoted`: a quoted text stays on its line;
* `eq_of_append_quoted`: a line that ends in a quoted text can be divided in one way only.
-/

namespace MlogHighlight.Text

open Vocabulary (hexValue?)

/-! ## Numbers -/

/-- A number is known by its decimal form. -/
theorem ofNat_injective : Function.Injective ofNat := by
  intro m n h
  have hvalue := congrArg (fun digits => Nat.ofDigitChars 10 digits 0) h
  simpa only [ofNat, Nat.ofDigitChars_ten_toDigits] using hvalue

theorem notMem_ofNat {c : Char} (hc : c.isDigit = false) (n : Nat) : c ∉ ofNat n := by
  intro h
  rw [Nat.isDigit_of_mem_toDigits (by decide) (by decide) h] at hc
  exact Bool.noConfusion hc

/-- The value of hexadecimal digits. -/
def hexNumber (digits : Text) : Nat := digits.foldl (fun n d => 16 * n + (hexValue? d).getD 0) 0

theorem hexValue?_digitChar : ∀ n < 16, hexValue? n.digitChar = some n := by decide

theorem hexNumber_toDigits (n : Nat) : hexNumber (Nat.toDigits 16 n) = n := by
  induction n using Nat.strongRecOn with
  | _ n ih =>
    rw [Nat.toDigits_eq_if (by decide)]
    split
    · rename_i hn
      simp [hexNumber, hexValue?_digitChar n hn]
    · have hfront := ih (n / 16) (by omega)
      rw [hexNumber] at hfront ⊢
      rw [List.foldl_append, hfront, List.foldl_cons, List.foldl_nil,
        hexValue?_digitChar _ (Nat.mod_lt n (by decide)), Option.getD_some]
      omega

/-- Leading zeros do not change the value. -/
theorem hexNumber_hex (width n : Nat) : hexNumber (hex width n) = n := by
  have hzeros : ∀ k, hexNumber (List.replicate k '0') = 0 := by
    intro k
    induction k with
    | zero => rfl
    | succ k ih =>
      rw [List.replicate_succ, hexNumber]
      exact ih
  have hdigits := hexNumber_toDigits n
  have hfront := hzeros (width - (Nat.toDigits 16 n).length)
  rw [hexNumber] at hdigits hfront
  rw [hex, hexNumber, List.foldl_append, hfront, hdigits]

theorem length_hex {width n : Nat} (hwidth : 0 < width) (hn : n < 16 ^ width) :
    (hex width n).length = width := by
  have hle := (Nat.length_toDigits_le_iff (by decide) hwidth).mpr hn
  simp only [hex, List.length_append, List.length_replicate]
  omega

theorem isSome_hexValue?_of_mem_toDigits {n : Nat} {c : Char} (h : c ∈ Nat.toDigits 16 n) :
    (hexValue? c).isSome = true := by
  induction n using Nat.strongRecOn with
  | _ n ih =>
    have hdigit : (hexValue? (n % 16).digitChar).isSome = true := by
      rw [hexValue?_digitChar _ (Nat.mod_lt n (by decide))]
      rfl
    rw [Nat.toDigits_eq_if (by decide)] at h
    split at h
    · rename_i hn
      rw [List.mem_singleton] at h
      rw [Nat.mod_eq_of_lt hn] at hdigit
      rwa [h]
    · rcases List.mem_append.mp h with h | h
      · exact ih (n / 16) (by omega) h
      · rw [List.mem_singleton] at h
        rwa [h]

theorem notMem_hex {c : Char} (hc : hexValue? c = none) (width n : Nat) : c ∉ hex width n := by
  intro h
  rcases List.mem_append.mp h with h | h
  · rw [List.eq_of_mem_replicate h] at hc
    exact absurd hc (by decide)
  · have hdigit := isSome_hexValue?_of_mem_toDigits h
    rw [hc] at hdigit
    exact Bool.noConfusion hdigit

/-! ## Characters -/

/-- Reads a character by its number, which has `width` digits. -/
def readNumber (width : Nat) (s : Text) : Char × Text :=
  (Char.ofNat (hexNumber (s.take width)), s.drop width)

/-- Reads what a backslash stands in front of. -/
def readEscape : Text → Option (Char × Text)
  | [] => none
  | 'n' :: s => some ('\n', s)
  | 'r' :: s => some ('\r', s)
  | 't' :: s => some ('\t', s)
  | 'x' :: s => some (readNumber 2 s)
  | 'u' :: s => some (readNumber 4 s)
  | 'U' :: s => some (readNumber 8 s)
  | c :: s => some (c, s)

/-- Reads a character from its form in a quoted text. -/
def readChar : Text → Option (Char × Text)
  | [] => none
  | c :: s => if c = '\\' then readEscape s else some (c, s)

theorem readNumber_hex {width : Nat} (hwidth : 0 < width) {c : Char} (hc : c.toNat < 16 ^ width)
    (s : Text) : readNumber width (hex width c.toNat ++ s) = (c, s) := by
  have hlength := length_hex hwidth hc
  rw [readNumber, List.take_left' hlength, List.drop_left' hlength, hexNumber_hex, Char.ofNat_toNat]

/-- The quotes that a quoted text can be put between. -/
def IsQuote (mark : Char) : Prop := mark = '\'' ∨ mark = '"'

theorem isQuote_quoteMark (s : Text) : IsQuote (quoteMark s) := by
  unfold quoteMark
  split
  · exact Or.inr rfl
  · exact Or.inl rfl

/-- The forms that a character can have between two quotes. -/
theorem quoteChar_cases (mark c : Char) :
    ((c = '\\' ∨ c = mark) ∧ quoteChar mark c = ['\\', c]) ∨
      (c = '\n' ∧ quoteChar mark c = ['\\', 'n']) ∨
      (c = '\r' ∧ quoteChar mark c = ['\\', 'r']) ∨
      (c = '\t' ∧ quoteChar mark c = ['\\', 't']) ∨
      (c ≠ '\\' ∧ c ≠ mark ∧ c ≠ '\n' ∧ quoteChar mark c = [c]) ∨
      ∃ width kind, (width = 2 ∧ kind = 'x' ∨ width = 4 ∧ kind = 'u' ∨ width = 8 ∧ kind = 'U') ∧
        c.toNat < 16 ^ width ∧ quoteChar mark c = '\\' :: kind :: hex width c.toNat := by
  unfold quoteChar
  split
  · exact .inl ⟨‹_›, rfl⟩
  rename_i hmark
  rw [not_or] at hmark
  split
  · exact .inr (.inl ⟨‹_›, rfl⟩)
  rename_i hfeed
  split
  · exact .inr (.inr (.inl ⟨‹_›, rfl⟩))
  split
  · exact .inr (.inr (.inr (.inl ⟨‹_›, rfl⟩)))
  split
  · exact .inr (.inr (.inr (.inr (.inl ⟨hmark.1, hmark.2, hfeed, rfl⟩))))
  refine .inr (.inr (.inr (.inr (.inr ?_))))
  split
  · exact ⟨2, 'x', .inl ⟨rfl, rfl⟩, ‹_›, rfl⟩
  split
  · exact ⟨4, 'u', .inr (.inl ⟨rfl, rfl⟩), ‹_›, rfl⟩
  · exact ⟨8, 'U', .inr (.inr ⟨rfl, rfl⟩), c.val.toNat_lt, rfl⟩

/-- The form of a character can be read back, whatever follows it. -/
theorem readChar_quoteChar {mark : Char} (hmark : IsQuote mark) (c : Char) (s : Text) :
    readChar (quoteChar mark c ++ s) = some (c, s) := by
  rcases quoteChar_cases mark c with ⟨hc, h⟩ | ⟨rfl, h⟩ | ⟨rfl, h⟩ | ⟨rfl, h⟩ | ⟨hc, -, -, h⟩ |
    ⟨width, kind, hkind, hwidth, h⟩
  · have hsame : c = '\\' ∨ IsQuote c := by
      rcases hc with rfl | rfl
      · exact Or.inl rfl
      · exact Or.inr hmark
    rw [h]
    rcases hsame with rfl | rfl | rfl <;> rfl
  · rw [h]
    rfl
  · rw [h]
    rfl
  · rw [h]
    rfl
  · rw [h, List.singleton_append, readChar, if_neg hc]
  · have hread := fun hpos => readNumber_hex hpos hwidth s
    rw [h]
    rcases hkind with ⟨rfl, rfl⟩ | ⟨rfl, rfl⟩ | ⟨rfl, rfl⟩ <;>
      exact congrArg some (hread (by decide))

/-! ## Quoted texts -/

/-- The characters between two quotes can be read back. -/
theorem eq_of_flatMap_quoteChar {mark : Char} (hmark : IsQuote mark) {s t : Text}
    (h : s.flatMap (quoteChar mark) = t.flatMap (quoteChar mark)) : s = t := by
  induction s generalizing t with
  | nil =>
    cases t with
    | nil => rfl
    | cons d t =>
      have hread := readChar_quoteChar hmark d (t.flatMap (quoteChar mark))
      rw [← List.flatMap_cons, ← h] at hread
      exact nomatch hread
  | cons c s ih =>
    have hread := readChar_quoteChar hmark c (s.flatMap (quoteChar mark))
    rw [← List.flatMap_cons, h] at hread
    cases t with
    | nil => exact nomatch hread
    | cons d t =>
      rw [List.flatMap_cons, readChar_quoteChar hmark, Option.some.injEq, Prod.mk.injEq] at hread
      rw [hread.1, ih hread.2.symm]

/-- The character stands behind backslashes only, the start of the text aside. -/
def Escapes (mark : Char) (s : Text) : Prop := s.IsChain fun c d => d = mark → c = '\\'

theorem escapes_cons {mark c : Char} {s : Text} (hs : Escapes mark s) (hhead : s.head? ≠ some mark) :
    Escapes mark (c :: s) := by
  refine List.isChain_cons.mpr ⟨?_, hs⟩
  rintro d hd rfl
  exact absurd (Option.mem_def.mp hd) hhead

theorem escapes_of_notMem {mark : Char} {s : Text} (hs : mark ∉ s) : Escapes mark s := by
  induction s with
  | nil => exact List.IsChain.nil
  | cons c s ih =>
    rw [List.mem_cons, not_or] at hs
    refine escapes_cons (ih hs.2) ?_
    intro hhead
    exact hs.2 (List.mem_of_head? hhead)

theorem escapes_append {mark : Char} {s t : Text} (hs : Escapes mark s) (ht : Escapes mark t)
    (hhead : t.head? ≠ some mark) : Escapes mark (s ++ t) := by
  refine List.IsChain.append hs ht ?_
  rintro c - d hd rfl
  exact absurd (Option.mem_def.mp hd) hhead

/-- The form of a character does not begin with the quote, and has it behind a backslash only. -/
theorem escapes_quoteChar {mark : Char} (hmark : IsQuote mark) (c : Char) :
    (quoteChar mark c).head? ≠ some mark ∧ Escapes mark (quoteChar mark c) := by
  have hbackslash : some '\\' ≠ some mark := by
    rcases hmark with rfl | rfl <;> decide
  rcases quoteChar_cases mark c with ⟨-, h⟩ | ⟨-, h⟩ | ⟨-, h⟩ | ⟨-, h⟩ | ⟨-, hc, -, h⟩ |
    ⟨width, kind, hkind, -, h⟩
  iterate 4
    rw [h]
    exact ⟨hbackslash, List.isChain_pair.mpr fun _ => rfl⟩
  · rw [h]
    refine ⟨fun hhead => hc (Option.some.inj hhead), List.isChain_singleton _⟩
  · have hdigit : hexValue? mark = none := by
      rcases hmark with rfl | rfl <;> decide
    have hkind : mark ≠ kind := by
      rcases hmark with rfl | rfl <;> rcases hkind with ⟨-, rfl⟩ | ⟨-, rfl⟩ | ⟨-, rfl⟩ <;> decide
    have hnone : mark ∉ '\\' :: kind :: hex width c.toNat := by
      simp only [List.mem_cons, not_or]
      exact ⟨fun heq => hbackslash (congrArg some heq.symm), hkind, notMem_hex hdigit _ _⟩
    rw [h]
    exact ⟨hbackslash, escapes_of_notMem hnone⟩

/-- Between two quotes, the quote in use stands behind backslashes only. -/
theorem escapes_flatMap_quoteChar {mark : Char} (hmark : IsQuote mark) (s : Text) :
    Escapes mark (mark :: s.flatMap (quoteChar mark)) := by
  have hbody : (s.flatMap (quoteChar mark)).head? ≠ some mark ∧
      Escapes mark (s.flatMap (quoteChar mark)) := by
    induction s with
    | nil => exact ⟨by simp, List.IsChain.nil⟩
    | cons c s ih =>
      rcases escapes_quoteChar hmark c with ⟨hhead, hchar⟩
      have hne : quoteChar mark c ≠ [] := by
        intro hnil
        have hread := readChar_quoteChar hmark c []
        rw [hnil] at hread
        exact nomatch hread
      rw [List.flatMap_cons, List.head?_append_of_ne_nil _ hne]
      exact ⟨hhead, escapes_append hchar ih.2 ih.1⟩
  exact escapes_cons hbody.2 hbody.1

/-- A quoted text stays on its line. -/
theorem lineFeed_notMem_quoted (s : Text) : '\n' ∉ s.quoted := by
  have hmark := isQuote_quoteMark s
  have hfeed : '\n' ≠ quoteMark s := by
    rcases hmark with h | h <;> rw [h] <;> decide
  have hchar : ∀ c, '\n' ∉ quoteChar (quoteMark s) c := by
    intro c
    rcases quoteChar_cases (quoteMark s) c with ⟨hc, h⟩ | ⟨-, h⟩ | ⟨-, h⟩ | ⟨-, h⟩ | ⟨-, -, hc, h⟩ |
      ⟨width, kind, hkind, -, h⟩
    · have hne : '\n' ≠ c := by
        rcases hc with rfl | rfl
        · decide
        · exact hfeed
      simp [h, hne]
    · simp [h]
    · simp [h]
    · simp [h]
    · simp [h, hc.symm]
    · have hnone := notMem_hex (show hexValue? '\n' = none by decide) width c.toNat
      rw [h]
      rcases hkind with ⟨-, rfl⟩ | ⟨-, rfl⟩ | ⟨-, rfl⟩ <;> simp [hnone]
  simp only [quoted, List.cons_append, List.mem_cons, List.mem_append, List.mem_flatMap,
    List.not_mem_nil, or_false, not_or, not_exists, not_and]
  exact ⟨hfeed, fun c _ => hchar c, hfeed⟩

/-- No quote inside the quotes stands behind a space, so none of them can be the opening one. -/
theorem eq_nil_of_append_escapes {mark : Char} {between body body' : Text}
    (hbody : Escapes mark (mark :: body))
    (h : ' ' :: mark :: body = between ++ ' ' :: mark :: body') : between = [] := by
  cases between with
  | nil => rfl
  | cons c between =>
    rw [List.cons_append, List.cons.injEq] at h
    have hspace := List.isChain_iff_forall_rel_of_append_cons_cons.mp hbody h.2 rfl
    exact absurd hspace (by decide)

theorem eq_of_append_escapes {mark : Char} {front front' body body' : Text}
    (hbody : Escapes mark (mark :: body)) (hbody' : Escapes mark (mark :: body'))
    (h : front ++ ' ' :: mark :: body = front' ++ ' ' :: mark :: body') :
    front = front' ∧ body = body' := by
  rcases List.append_eq_append_iff.mp h with ⟨between, rfl, hbetween⟩ | ⟨between, rfl, hbetween⟩
  · obtain rfl := eq_nil_of_append_escapes hbody hbetween
    simpa using hbetween
  · obtain rfl := eq_nil_of_append_escapes hbody' hbetween
    simpa using hbetween.symm

/-- A line that ends in a quoted text behind a space can be divided in one way only. -/
theorem eq_of_append_quoted {front front' s s' : Text}
    (h : front ++ ' ' :: s.quoted = front' ++ ' ' :: s'.quoted) : front = front' ∧ s = s' := by
  unfold quoted at h
  rw [← List.cons_append, ← List.cons_append, ← List.append_assoc, ← List.append_assoc] at h
  rcases List.append_inj' h rfl with ⟨hopen, hclose⟩
  rw [List.cons.injEq] at hclose
  rw [← hclose.1] at hopen
  have hmark := isQuote_quoteMark s
  rcases eq_of_append_escapes (escapes_flatMap_quoteChar hmark s)
    (escapes_flatMap_quoteChar hmark s') hopen with ⟨hfront, hbody⟩
  exact ⟨hfront, eq_of_flatMap_quoteChar hmark hbody⟩

end MlogHighlight.Text
