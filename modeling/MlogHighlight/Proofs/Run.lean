import Mathlib.Data.List.Basic
import MlogHighlight.Text.Passage

/-!
# Runs of characters

A run is a stretch of characters of one class that can be extended on neither side. Main facts:

* `takeWhile_append_of_run`, `dropWhile_append_of_run`: a run at the start of a text is what a
  longest match takes, so a text begins with at most one run (`run_unique`);
* `runsFrom_append`: the runs of a text and those of what follows it;
* `mem_runs`: `Text.runs` lists the runs of a text, each with its position.
-/

namespace MlogHighlight.Text

variable {p : Char → Bool}

/-! ## Runs at the start of a text -/

/-- The text does not go on with a character of the class. -/
def Stops (p : Char → Bool) (s : Text) : Prop := s.head?.any p = false

@[simp] theorem stops_nil : Stops p [] := rfl

@[simp] theorem stops_cons {c : Char} {s : Text} : Stops p (c :: s) ↔ p c = false := by
  simp [Stops]

theorem stops_append_of_ne_nil {s : Text} (hs : s ≠ []) (t : Text) :
    Stops p (s ++ t) ↔ Stops p s := by
  cases s with
  | nil => exact absurd rfl hs
  | cons c s => simp

/-- Texts behind the same text begin alike if they do so on their own. -/
theorem head?_append_congr (front : Text) {s t : Text} (heq : s.head? = t.head?) :
    (front ++ s).head? = (front ++ t).head? := by
  rw [List.head?_append, List.head?_append, heq]

theorem Stops.of_head? {s t : Text} (h : Stops p s) (heq : s.head? = t.head?) : Stops p t := by
  unfold Stops at h ⊢
  rwa [← heq]

theorem Stops.of_prefix {s t : Text} (h : Stops p s) (hbegins : t <+: s) : Stops p t := by
  rcases hbegins with ⟨rest, rfl⟩
  cases t with
  | nil => exact stops_nil
  | cons c t => simpa using h

theorem not_stops_of_all {s : Text} (hs : s ≠ []) (hall : s.all p = true) : ¬ Stops p s := by
  cases s with
  | nil => exact absurd rfl hs
  | cons c s => simp_all

theorem stops_dropWhile (p : Char → Bool) (s : Text) : Stops p (s.dropWhile p) := by
  induction s with
  | nil => rfl
  | cons c s ih => by_cases hc : p c = true <;> simp [hc, ih]

theorem takeWhile_of_stops {s : Text} (h : Stops p s) : s.takeWhile p = [] := by
  cases s with
  | nil => rfl
  | cons c s => simp [stops_cons.mp h]

theorem dropWhile_of_stops {s : Text} (h : Stops p s) : s.dropWhile p = s := by
  cases s with
  | nil => rfl
  | cons c s => simp [stops_cons.mp h]

theorem takeWhile_append_of_run {word rest : Text} (hword : word.all p = true)
    (hrest : Stops p rest) : (word ++ rest).takeWhile p = word := by
  rw [List.takeWhile_append_of_pos (List.all_eq_true.mp hword), takeWhile_of_stops hrest,
    List.append_nil]

theorem dropWhile_append_of_run {word rest : Text} (hword : word.all p = true)
    (hrest : Stops p rest) : (word ++ rest).dropWhile p = rest := by
  rw [List.dropWhile_append_of_pos (List.all_eq_true.mp hword), dropWhile_of_stops hrest]

theorem dropWhile_append_of_stops {rest : Text} (hrest : Stops p rest) (front : Text) :
    (front ++ rest).dropWhile p = front.dropWhile p ++ rest := by
  rw [List.dropWhile_append]
  split
  · rename_i hempty
    rw [List.isEmpty_iff.mp hempty, dropWhile_of_stops hrest, List.nil_append]
  · rfl

theorem all_ne_of_notMem {c : Char} {s : Text} (h : c ∉ s) : s.all (· ≠ c) = true := by
  rw [List.all_eq_true]
  intro d hd
  have hne : d ≠ c := by
    rintro rfl
    exact h hd
  simpa using hne

theorem all_takeWhile (p : Char → Bool) (s : Text) : (s.takeWhile p).all p = true :=
  List.all_takeWhile

theorem all_dropWhile {q : Char → Bool} {s : Text} (h : s.all q = true) :
    (s.dropWhile p).all q = true := by
  rw [List.all_eq_true] at h ⊢
  intro c hc
  exact h c ((List.dropWhile_suffix p).subset hc)

/-- A text can be divided in one way only into a run and what is behind it. -/
theorem run_unique {word word' rest rest' : Text} (hword : word.all p = true)
    (hword' : word'.all p = true) (hrest : Stops p rest) (hrest' : Stops p rest')
    (h : word ++ rest = word' ++ rest') : word = word' ∧ rest = rest' := by
  constructor
  · rw [← takeWhile_append_of_run hword hrest, h, takeWhile_append_of_run hword' hrest']
  · rw [← dropWhile_append_of_run hword hrest, h, dropWhile_append_of_run hword' hrest']

/-! ## The runs of a text -/

theorem runsFrom_cons_of_neg {c : Char} (hc : p c = false) (pos : Nat) (s : Text) :
    runsFrom p pos (c :: s) = runsFrom p (pos + 1) s := by
  simp [runsFrom, hc]

theorem start_le_of_mem_runsFrom {pos : Nat} {s : Text} {run : Passage}
    (h : run ∈ runsFrom p pos s) : pos ≤ run.start := by
  induction s generalizing pos run with
  | nil => simp [runsFrom] at h
  | cons c s ih =>
    simp only [runsFrom] at h
    split at h
    · split at h
      · rename_i first rest hlater
        have hrest : ∀ run' ∈ rest, pos ≤ run'.start := by
          intro run' hrun'
          have hpos : pos + 1 ≤ run'.start := ih (by simp [hlater, hrun'])
          omega
        split at h
        · rcases List.mem_cons.mp h with rfl | h
          · exact Nat.le_refl _
          · exact hrest run h
        · rw [hlater] at h
          rcases List.mem_cons.mp h with rfl | h
          · exact Nat.le_refl _
          · have hpos : pos + 1 ≤ run.start := ih (by simpa [hlater] using h)
            omega
      · obtain rfl : run = ⟨pos, [c]⟩ := by simpa using h
        exact Nat.le_refl _
    · have hpos := ih h
      omega

/-- The first run begins with the first character of the class and goes on as long as it can. -/
theorem runsFrom_cons_of_pos {c : Char} (hc : p c = true) (pos : Nat) (s : Text) :
    runsFrom p pos (c :: s) = ⟨pos, c :: s.takeWhile p⟩ ::
      runsFrom p (pos + 1 + (s.takeWhile p).length) (s.dropWhile p) := by
  induction s generalizing c pos with
  | nil => simp [runsFrom, hc]
  | cons d s ih =>
    rw [runsFrom, if_pos hc]
    by_cases hd : p d = true
    · rw [ih hd (pos + 1)]
      have hpos : pos + 1 + 1 + (s.takeWhile p).length = pos + 1 + ((s.takeWhile p).length + 1) := by
        omega
      simp [hd, hpos]
    · -- the next run, if there is one, does not begin right behind `c`
      have hd : p d = false := by simpa using hd
      rw [runsFrom_cons_of_neg hd]
      have hlater : ∀ run ∈ runsFrom p (pos + 1 + 1) s, run.start ≠ pos + 1 := by
        intro run hrun
        have := start_le_of_mem_runsFrom hrun
        omega
      cases hruns : runsFrom p (pos + 1 + 1) s with
      | nil => simp [hd, runsFrom_cons_of_neg hd, hruns]
      | cons run rest =>
        have hrun := hlater run (by simp [hruns])
        simp [hd, runsFrom_cons_of_neg hd, hruns, hrun]

/-- `run` is a run of a text that starts at position `pos`: the characters on both sides of it are
not of the class. -/
def IsRunFrom (p : Char → Bool) (pos : Nat) (s : Text) (run : Passage) : Prop :=
  ∃ before after, s = before ++ run.text ++ after ∧ run.start = pos + before.length ∧
    run.text ≠ [] ∧ run.text.all p = true ∧ Stops p before.reverse ∧ Stops p after

theorem isRunFrom_cons_of_neg {c : Char} (hc : p c = false) {pos : Nat} {s : Text} {run : Passage} :
    IsRunFrom p pos (c :: s) run ↔ IsRunFrom p (pos + 1) s run := by
  constructor
  · intro h
    rcases h with ⟨before, after, hs, hstart, hne, hall, hbefore, hafter⟩
    cases before with
    | nil =>
      have hstops : Stops p (run.text ++ after) := by
        rw [List.nil_append] at hs
        rw [← hs]
        exact stops_cons.mpr hc
      exact absurd ((stops_append_of_ne_nil hne after).mp hstops) (not_stops_of_all hne hall)
    | cons d before =>
      simp only [List.cons_append, List.cons.injEq] at hs
      refine ⟨before, after, hs.2, ?_, hne, hall, ?_, hafter⟩
      · simp only [List.length_cons] at hstart
        omega
      · by_cases hempty : before = []
        · simp [hempty]
        · simpa [stops_append_of_ne_nil, hempty] using hbefore
  · intro h
    rcases h with ⟨before, after, hs, hstart, hne, hall, hbefore, hafter⟩
    refine ⟨c :: before, after, by simp [hs], ?_, hne, hall, ?_, hafter⟩
    · simp only [List.length_cons]
      omega
    · by_cases hempty : before = []
      · simp [hempty, hc]
      · simpa [stops_append_of_ne_nil, hempty] using hbefore

theorem isRunFrom_cons_of_pos {c : Char} (hc : p c = true) {pos : Nat} {s : Text} {run : Passage} :
    IsRunFrom p pos (c :: s) run ↔ run = ⟨pos, c :: s.takeWhile p⟩ ∨
      IsRunFrom p (pos + 1 + (s.takeWhile p).length) (s.dropWhile p) run := by
  have hsplit : c :: s = (c :: s.takeWhile p) ++ s.dropWhile p := by simp
  have hfirst : (c :: s.takeWhile p).all p = true := by simp [hc]
  have hrest := stops_dropWhile p s
  constructor
  · intro h
    rcases h with ⟨before, after, hs, hstart, hne, hall, hbefore, hafter⟩
    rw [hsplit] at hs
    rcases List.append_eq_append_iff.mp (hs.trans (List.append_assoc ..)) with
      ⟨middle, hmiddle, hdrop⟩ | ⟨middle, hmiddle, hdrop⟩
    · -- `before` goes beyond the first run
      right
      refine ⟨middle, after, by rw [hdrop, List.append_assoc], ?_, hne, hall, ?_, hafter⟩
      · rw [hstart, hmiddle]
        simp only [List.length_append, List.length_cons]
        omega
      · by_cases hempty : middle = []
        · simp [hempty]
        · rwa [hmiddle, List.reverse_append, stops_append_of_ne_nil (by simpa using hempty)]
            at hbefore
    · -- `before` is a part of the first run, so it is empty
      left
      have hpart : before.reverse.all p = true := by
        rw [hmiddle, List.all_append, Bool.and_eq_true] at hfirst
        rw [List.all_reverse]
        exact hfirst.1
      obtain rfl : before = [] := by
        by_contra hempty
        exact not_stops_of_all (by simpa using hempty) hpart hbefore
      have hrun := run_unique hfirst hall hrest hafter (by simpa using hs)
      cases run
      simp_all
  · intro h
    rcases h with rfl | ⟨before, after, hs, hstart, hne, hall, hbefore, hafter⟩
    · exact ⟨[], s.dropWhile p, by simp, rfl, by simp, hfirst, rfl, hrest⟩
    · refine ⟨(c :: s.takeWhile p) ++ before, after, ?_, ?_, hne, hall, ?_, hafter⟩
      · rw [hsplit, hs]
        simp only [List.append_assoc]
      · simp only [List.length_append, List.length_cons]
        omega
      · have hempty : before ≠ [] := by
          rintro rfl
          rw [hs, List.nil_append, stops_append_of_ne_nil hne] at hrest
          exact not_stops_of_all hne hall hrest
        rwa [List.reverse_append, stops_append_of_ne_nil (by simpa using hempty)]

theorem mem_runsFrom {pos : Nat} {s : Text} {run : Passage} :
    run ∈ runsFrom p pos s ↔ IsRunFrom p pos s run := by
  -- by length, since the runs go on behind the whole first run
  induction hlength : s.length using Nat.strongRecOn generalizing pos s with
  | _ n ih =>
    cases s with
    | nil =>
      constructor
      · intro h
        simp [runsFrom] at h
      · rintro ⟨before, after, hs, -, hne, -⟩
        simp [hne] at hs
    | cons c s =>
      simp only [List.length_cons] at hlength
      by_cases hc : p c = true
      · have hle := (List.dropWhile_sublist p (l := s)).length_le
        rw [runsFrom_cons_of_pos hc, List.mem_cons, isRunFrom_cons_of_pos hc,
          ih _ (by omega) rfl]
      · have hc : p c = false := by simpa using hc
        rw [runsFrom_cons_of_neg hc, isRunFrom_cons_of_neg hc, ih _ (by omega) rfl]

/-! ## The runs of joined texts -/

theorem runsFrom_append_of_none {front : Text} (hfront : ∀ c ∈ front, p c = false) (pos : Nat)
    (s : Text) : runsFrom p pos (front ++ s) = runsFrom p (pos + front.length) s := by
  induction front generalizing pos with
  | nil => rfl
  | cons c front ih =>
    rcases List.forall_mem_cons.mp hfront with ⟨hc, hfront⟩
    rw [List.cons_append, runsFrom_cons_of_neg hc, ih hfront, List.length_cons, Nat.add_assoc,
      Nat.add_comm 1]

theorem runsFrom_eq_nil {s : Text} (hs : ∀ c ∈ s, p c = false) (pos : Nat) :
    runsFrom p pos s = [] := by
  have hnone := runsFrom_append_of_none hs pos []
  rwa [List.append_nil] at hnone

theorem lt_start_of_mem_runsFrom {pos : Nat} {s : Text} (hs : Stops p s) {run : Passage}
    (h : run ∈ runsFrom p pos s) : pos < run.start := by
  cases s with
  | nil => simp [runsFrom] at h
  | cons c s =>
    rw [runsFrom_cons_of_neg (stops_cons.mp hs)] at h
    exact start_le_of_mem_runsFrom h

/-- The runs of a text and of what follows it, unless a run goes on there. -/
theorem runsFrom_append {back : Text} (hback : Stops p back) (pos : Nat) (s : Text) :
    runsFrom p pos (s ++ back) = runsFrom p pos s ++ runsFrom p (pos + s.length) back := by
  induction s generalizing pos with
  | nil => rfl
  | cons c s ih =>
    have hlength : pos + 1 + s.length = pos + (s.length + 1) := by omega
    have hbehind := ih (pos + 1)
    rw [hlength] at hbehind
    by_cases hc : p c = true
    · -- no run behind begins right behind `c`, so none is lengthened by it
      have hlater : ∀ run ∈ runsFrom p (pos + (s.length + 1)) back, run.start ≠ pos + 1 := by
        intro run hrun
        have hlt := lt_start_of_mem_runsFrom hback hrun
        omega
      simp only [List.cons_append, runsFrom, if_pos hc, hbehind, List.length_cons]
      cases runsFrom p (pos + 1) s with
      | cons run rest =>
        simp only [List.cons_append]
        split <;> rfl
      | nil =>
        cases hruns : runsFrom p (pos + (s.length + 1)) back with
        | nil => rfl
        | cons run rest =>
          have hrun := hlater run (by simp [hruns])
          simp [hrun]
    · have hc : p c = false := by simpa using hc
      rw [List.cons_append, runsFrom_cons_of_neg hc, runsFrom_cons_of_neg hc, hbehind,
        List.length_cons]

/-- `run` is a run of a text. -/
def IsRun (p : Char → Bool) (s : Text) (run : Passage) : Prop := IsRunFrom p 0 s run

/-- The runs that are listed are the runs of the text. -/
theorem mem_runs {s : Text} {run : Passage} : run ∈ runs p s ↔ IsRun p s run := mem_runsFrom

end MlogHighlight.Text
