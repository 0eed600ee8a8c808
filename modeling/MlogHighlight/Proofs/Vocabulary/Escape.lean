import MlogHighlight.Proofs.Vocabulary.Layout

/-!
# The escapes of quoted words

What a backslash in a quoted word stands for, together with the characters behind it. The escapes
are listed apart from the reader, which decodes from left to right and skips what it has decoded.
Main facts:

* `escape?_eq_some_iff`, `escape?_eq_none_iff`: what the reader takes for an escape;
* `unescape_escape`, `unescape_backslash`: an escape is decoded in front of the rest, and without one
  the backslash stands for itself;
* `decodes_iff`: what a text between quotes stands for;
* `WordLayout.value_quoted`: the same for the words of a layout.
-/

namespace MlogHighlight.Vocabulary

open Text

/-! ## Digits -/

section

variable {d : Char} {n : Nat}

/-- The digit has the value as a hexadecimal digit, small or capital. -/
def HexDigit (d : Char) (n : Nat) : Prop :=
  ("0123456789abcdef" : Text)[n]? = some d ∨ ("0123456789ABCDEF" : Text)[n]? = some d

instance (d : Char) (n : Nat) : Decidable (HexDigit d n) := inferInstanceAs (Decidable (_ ∨ _))

theorem toNat_lt_of_hexValue? (h : hexValue? d = some n) : d.toNat < 128 := by
  simp only [hexValue?, Char.isDigit, Bool.and_eq_true, decide_eq_true_eq] at h
  split at h
  · rename_i hdigit
    have hle : d ≤ '9' := hdigit.2
    exact Unicode.toNat_lt_of_le hle (by decide)
  · split at h
    · rename_i hsmall
      exact Unicode.toNat_lt_of_le hsmall.2 (by decide)
    · split at h
      · rename_i hcapital
        exact Unicode.toNat_lt_of_le hcapital.2 (by decide)
      · simp at h

theorem hexValue?_eq_some_iff : hexValue? d = some n ↔ HexDigit d n := by
  constructor
  · intro h
    have hdigits : ∀ d : Char, d.toNat < 128 → (hexValue? d).all (HexDigit d ·) = true :=
      Unicode.forall_ascii (by decide +kernel)
    have hdigit := hdigits d (toNat_lt_of_hexValue? h)
    rw [h] at hdigit
    exact of_decide_eq_true hdigit
  · intro h
    have hn : n < 16 := by
      rcases h with h | h <;> exact (List.getElem?_eq_some_iff.mp h).1
    have hvalues : ∀ n < 16, ("0123456789abcdef" : Text)[n]?.bind hexValue? = some n ∧
        ("0123456789ABCDEF" : Text)[n]?.bind hexValue? = some n := by
      decide +kernel
    rcases hvalues n hn with ⟨hsmall, hcapital⟩
    rcases h with h | h
    · rwa [h] at hsmall
    · rwa [h] at hcapital

theorem isOctal_iff : isOctal d = true ↔ d ∈ ("01234567" : Text) := by
  have hdigits : ∀ d : Char, d.toNat < 128 → (isOctal d = true ↔ d ∈ ("01234567" : Text)) :=
    Unicode.forall_ascii (by decide +kernel)
  constructor
  · intro h
    have hle : d ≤ '7' := by simpa using (Bool.and_eq_true_iff.mp h).2
    exact (hdigits d (Unicode.toNat_lt_of_le hle (by decide))).mp h
  · intro h
    have hall : ("01234567" : Text).all isOctal = true := by decide
    exact List.all_eq_true.mp hall d h

end

/-! ## Escapes -/

/-- What is written behind a backslash, what it stands for together with the backslash, and what
follows it. The last digit of a number is always the same one; an octal number stands for its
digits, and a `0` is one when that last digit follows. -/
inductive Escape : Text → Text → Text → Prop where
  | tab (rest : Text) : Escape ['t'] ['\t'] rest
  | lineFeed (rest : Text) : Escape ['n'] ['\n'] rest
  | formFeed (rest : Text) : Escape ['f'] ['\x0c'] rest
  | carriageReturn (rest : Text) : Escape ['r'] ['\r'] rest
  | null (rest : Text) : rest.head? ≠ some '3' → Escape ['0'] ['\x00'] rest
  | octal (d : Char) (rest : Text) : d ∈ ("01234567" : Text) → Escape [d, '3'] [d, '3'] rest
  | two (d : Char) (n : Nat) (rest : Text) : HexDigit d n →
      Escape ['x', d, '2'] [Char.ofNat (n * 16 + 2)] rest
  | four (d : Char) (n : Nat) (rest : Text) : HexDigit d n →
      Escape ['u', d, '4'] [Char.ofNat (n * 16 + 4)] rest

variable {s t written value rest : Text} {length : Nat}

/-- The reader takes an escape for what it stands for. -/
theorem Escape.escape? (h : Escape written value rest) :
    escape? (written ++ rest) = some (value, written.length) := by
  cases h with
  | tab => rfl
  | lineFeed => rfl
  | formFeed => rfl
  | carriageReturn => rfl
  | null _ hrest =>
    cases rest with
    | nil => rfl
    | cons c rest =>
      have hc : c ≠ '3' := by simpa using hrest
      simp [Vocabulary.escape?, hc]
  | octal d _ hd =>
    have hd : d ∈ ['0', '1', '2', '3', '4', '5', '6', '7'] := hd
    simp only [List.mem_cons, List.not_mem_nil, or_false] at hd
    rcases hd with rfl | rfl | rfl | rfl | rfl | rfl | rfl | rfl <;> rfl
  | two d n _ hd =>
    rw [← hexValue?_eq_some_iff] at hd
    simp [Vocabulary.escape?, hd]
  | four d n _ hd =>
    rw [← hexValue?_eq_some_iff] at hd
    simp [Vocabulary.escape?, hd]

/-- What the reader takes for an escape is one. -/
theorem exists_escape (h : escape? s = some (value, length)) :
    ∃ written rest, s = written ++ rest ∧ written.length = length ∧ Escape written value rest := by
  unfold escape? at h
  split at h
  case h_1 rest =>
    obtain ⟨rfl, rfl⟩ := Prod.mk.inj (Option.some.inj h)
    exact ⟨_, rest, rfl, rfl, Escape.tab rest⟩
  case h_2 rest =>
    obtain ⟨rfl, rfl⟩ := Prod.mk.inj (Option.some.inj h)
    exact ⟨_, rest, rfl, rfl, Escape.lineFeed rest⟩
  case h_3 rest =>
    obtain ⟨rfl, rfl⟩ := Prod.mk.inj (Option.some.inj h)
    exact ⟨_, rest, rfl, rfl, Escape.formFeed rest⟩
  case h_4 rest =>
    obtain ⟨rfl, rfl⟩ := Prod.mk.inj (Option.some.inj h)
    exact ⟨_, rest, rfl, rfl, Escape.carriageReturn rest⟩
  case h_5 d rest =>
    obtain ⟨n, hn, hvalue⟩ := Option.map_eq_some_iff.mp h
    obtain ⟨rfl, rfl⟩ := Prod.mk.inj hvalue
    exact ⟨_, rest, rfl, rfl, Escape.two d n rest (hexValue?_eq_some_iff.mp hn)⟩
  case h_6 d rest =>
    obtain ⟨n, hn, hvalue⟩ := Option.map_eq_some_iff.mp h
    obtain ⟨rfl, rfl⟩ := Prod.mk.inj hvalue
    exact ⟨_, rest, rfl, rfl, Escape.four d n rest (hexValue?_eq_some_iff.mp hn)⟩
  case h_7 rest =>
    obtain ⟨rfl, rfl⟩ := Prod.mk.inj (Option.some.inj h)
    exact ⟨_, rest, rfl, rfl, Escape.octal '0' rest (by decide)⟩
  case h_8 rest hrest =>
    obtain ⟨rfl, rfl⟩ := Prod.mk.inj (Option.some.inj h)
    refine ⟨_, rest, rfl, rfl, Escape.null rest ?_⟩
    intro hhead
    rcases List.head?_eq_some_iff.mp hhead with ⟨tail, htail⟩
    exact hrest tail htail
  case h_9 d rest _ _ _ _ _ _ _ =>
    split at h
    · rename_i hd
      obtain ⟨rfl, rfl⟩ := Prod.mk.inj (Option.some.inj h)
      exact ⟨_, rest, rfl, rfl, Escape.octal d rest (isOctal_iff.mp hd)⟩
    · simp at h
  case h_10 => simp at h

/-- The reader takes for an escape what is one. -/
theorem escape?_eq_some_iff : escape? s = some (value, length) ↔
    ∃ written rest, s = written ++ rest ∧ written.length = length ∧ Escape written value rest := by
  constructor
  · exact exists_escape
  · rintro ⟨written, rest, rfl, rfl, h⟩
    exact h.escape?

theorem escape?_eq_none_iff : escape? s = none ↔
    ∀ written value rest, Escape written value rest → s ≠ written ++ rest := by
  constructor
  · rintro hnone written value rest h rfl
    rw [h.escape?] at hnone
    exact nomatch hnone
  · intro h
    cases hread : escape? s with
    | none => rfl
    | some read =>
      rcases escape?_eq_some_iff.mp hread with ⟨written, rest, hs, -, hescape⟩
      exact absurd hs (h _ _ _ hescape)

/-! ## Quoted words -/

/-- What a text between quotes stands for: each escape for what it is the escape of, and every
other character, be it a backslash, for itself. -/
inductive Decodes : Text → Text → Prop where
  | nil : Decodes [] []
  | plain (c : Char) (s t : Text) : c ≠ '\\' → Decodes s t → Decodes (c :: s) (c :: t)
  | escape (written value rest t : Text) : Escape written value rest → Decodes rest t →
      Decodes ('\\' :: (written ++ rest)) (value ++ t)
  | backslash (s t : Text) :
      (∀ written value rest, Escape written value rest → s ≠ written ++ rest) → Decodes s t →
      Decodes ('\\' :: s) ('\\' :: t)

theorem unescape_cons {c : Char} (hc : c ≠ '\\') (s : Text) : unescape (c :: s) = c :: unescape s := by
  simp [unescape, unescapeFrom, hc]

theorem unescapeFrom_append (written rest : Text) :
    unescapeFrom written.length (written ++ rest) = unescape rest := by
  induction written with
  | nil => rfl
  | cons c written ih =>
    rw [List.length_cons, List.cons_append, unescapeFrom, if_pos (Nat.succ_ne_zero _),
      Nat.add_sub_cancel, ih]

/-- An escape is decoded in front of what follows it. -/
theorem unescape_escape (h : Escape written value rest) :
    unescape ('\\' :: (written ++ rest)) = value ++ unescape rest := by
  simp [unescape, unescapeFrom, h.escape?, unescapeFrom_append written rest]

/-- A backslash that begins no escape stands for itself. -/
theorem unescape_backslash (h : ∀ written value rest, Escape written value rest → s ≠ written ++ rest) :
    unescape ('\\' :: s) = '\\' :: unescape s := by
  simp [unescape, unescapeFrom, escape?_eq_none_iff.mpr h]

theorem decodes_unescape (s : Text) : Decodes s (unescape s) := by
  induction hlength : s.length using Nat.strongRecOn generalizing s with
  | _ n ih =>
    cases s with
    | nil => exact Decodes.nil
    | cons c s =>
      rw [List.length_cons] at hlength
      by_cases hc : c = '\\'
      · subst hc
        cases hread : escape? s with
        | none =>
          have hnone := escape?_eq_none_iff.mp hread
          rw [unescape_backslash hnone]
          exact Decodes.backslash s _ hnone (ih _ (by omega) s rfl)
        | some read =>
          rcases escape?_eq_some_iff.mp hread with ⟨written, rest, rfl, -, hescape⟩
          rw [unescape_escape hescape]
          rw [List.length_append] at hlength
          exact Decodes.escape _ _ _ _ hescape (ih _ (by omega) rest rfl)
      · rw [unescape_cons hc]
        exact Decodes.plain c s _ hc (ih _ (by omega) s rfl)

/-- What is decoded between quotes is what the text there stands for. -/
theorem decodes_iff : Decodes s t ↔ unescape s = t := by
  constructor
  · intro h
    induction h with
    | nil => rfl
    | plain c s t hc _ ih => rw [unescape_cons hc, ih]
    | escape written value rest t hescape _ ih => rw [unescape_escape hescape, ih]
    | backslash s t hnone _ ih => rw [unescape_backslash hnone, ih]
  · rintro rfl
    exact decodes_unescape s

/-- A quoted word of a layout is what its text stands for. -/
theorem WordLayout.value_quoted {body word : Text} : (quoted body).value = word ↔ Decodes body word :=
  decodes_iff.symm

/-- A backslash does not escape a backslash, and most numbers are no escapes. -/
example : unescape "\\\\t\\0\\03\\x42\\x41" = "\\\t\x0003B\\x41" := by
  decide

end MlogHighlight.Vocabulary
