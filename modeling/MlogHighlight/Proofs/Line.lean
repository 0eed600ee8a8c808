import MlogHighlight.Proofs.Run

/-!
# The lines of a text

A text is empty, or a last line without a line feed, or a line with its line feed in front of a
text. Main facts:

* `line_induction`: the induction along these three cases;
* `linesFrom_append`: the lines of two texts follow each other if the first one ends its last line;
* `linesFrom_add`: a text that starts elsewhere has the same lines elsewhere;
* `exists_of_linesFrom_eq`: where a line stands in its text, and which line it is;
* `mem_lines`, `exists_mem_lines`: what stands between the ends of two lines is a line;
* `map_text_linesFrom_endLine`: texts that are written on lines of their own are these lines.
-/

namespace MlogHighlight

/-- The passage at a place further on. -/
def Passage.shift (p : Passage) (distance : Nat) : Passage := ⟨p.start + distance, p.text⟩

namespace Text

/-- The text is empty or ends its last line. -/
def EndsLine (s : Text) : Prop := s = [] ∨ s.getLast? = some '\n'

/-- The text is empty or begins with the end of a line. -/
def AtLineEnd (s : Text) : Prop := s = [] ∨ s.head? = some '\n'

@[simp] theorem endsLine_nil : EndsLine [] := Or.inl rfl

@[simp] theorem atLineEnd_nil : AtLineEnd [] := Or.inl rfl

theorem not_endsLine {s : Text} (hne : s ≠ []) (hs : '\n' ∉ s) : ¬ EndsLine s := by
  rintro (h | h)
  · exact hne h
  · exact hs (List.mem_of_getLast? h)

theorem EndsLine.append {s t : Text} (hs : EndsLine s) (ht : EndsLine t) : EndsLine (s ++ t) := by
  rcases ht with rfl | ht
  · simpa using hs
  · right
    rw [List.getLast?_append, ht]
    rfl

theorem endsLine_concat (s : Text) : EndsLine (s ++ ['\n']) := Or.inr (by simp)

/-- A text that does not begin with the end of a line goes on after its first character. -/
theorem AtLineEnd.cases {s : Text} (h : AtLineEnd s) : s = [] ∨ ∃ t, s = '\n' :: t := by
  rcases h with h | h
  · exact Or.inl h
  · cases s with
    | nil => simp at h
    | cons c t => exact Or.inr ⟨t, by simpa using h⟩

theorem AtLineEnd.of_head? {s t : Text} (h : AtLineEnd s) (heq : s.head? = t.head?) :
    AtLineEnd t := by
  rcases h.cases with rfl | ⟨s, rfl⟩
  · exact Or.inl (List.head?_eq_none_iff.mp heq.symm)
  · exact Or.inr heq.symm

theorem lineFeed_notMem_takeWhile (s : Text) : '\n' ∉ s.takeWhile (· ≠ '\n') := by
  intro hmem
  have hfeed := List.all_eq_true.mp (all_takeWhile (· ≠ '\n') s) _ hmem
  simp at hfeed

theorem atLineEnd_dropWhile (s : Text) : AtLineEnd (s.dropWhile (· ≠ '\n')) := by
  have hdrop := stops_dropWhile (· ≠ '\n') s
  cases hrest : s.dropWhile (· ≠ '\n') with
  | nil => exact atLineEnd_nil
  | cons c rest =>
    rw [hrest] at hdrop
    right
    simpa using hdrop

/-- Seen from its end, a text that goes on in a line begins with that line. -/
theorem takeWhile_reverse_line {front body : Text} (hfront : EndsLine front) (hbody : '\n' ∉ body) :
    (front ++ body).reverse.takeWhile (· ≠ '\n') = body.reverse := by
  have hline : '\n' ∉ body.reverse := by
    rw [List.mem_reverse]
    exact hbody
  have hstops : Stops (· ≠ '\n') front.reverse := by
    rcases hfront with rfl | hlast
    · exact stops_nil
    · rw [Stops, List.head?_reverse, hlast]
      rfl
  rw [List.reverse_append, takeWhile_append_of_run (all_ne_of_notMem hline) hstops]

/-! ## Induction along lines -/

theorem linesFrom_line {body : Text} (hbody : '\n' ∉ body) (pos : Nat) (rest : Text) :
    linesFrom pos (body ++ '\n' :: rest) =
      ⟨pos, body ++ ['\n']⟩ :: linesFrom (pos + body.length + 1) rest := by
  induction body generalizing pos with
  | nil => simp [linesFrom]
  | cons c body ih =>
    simp only [List.mem_cons, not_or] at hbody
    have hc : c ≠ '\n' := fun h => hbody.1 h.symm
    have hpos : pos + 1 + body.length + 1 = pos + (body.length + 1) + 1 := by omega
    simp [linesFrom, hc, ih hbody.2, hpos]

theorem linesFrom_last {body : Text} (hne : body ≠ []) (hbody : '\n' ∉ body) (pos : Nat) :
    linesFrom pos body = [⟨pos, body⟩] := by
  induction body generalizing pos with
  | nil => exact absurd rfl hne
  | cons c body ih =>
    simp only [List.mem_cons, not_or] at hbody
    have hc : c ≠ '\n' := fun h => hbody.1 h.symm
    by_cases hempty : body = []
    · simp [hempty, linesFrom, hc]
    · simp [linesFrom, hc, ih hempty hbody.2]

/-- A text is its first line, up to and with the first line feed, and the lines behind it. -/
theorem linesFrom_eq_cons {body rest : Text} (hbody : '\n' ∉ body) (hrest : AtLineEnd rest)
    (hne : body ++ rest ≠ []) (pos : Nat) :
    linesFrom pos (body ++ rest) =
      ⟨pos, body ++ rest.take 1⟩ :: linesFrom (pos + body.length + 1) (rest.drop 1) := by
  rcases hrest.cases with rfl | ⟨t, rfl⟩
  · rw [List.append_nil] at hne
    rw [List.take_nil, List.append_nil, linesFrom_last hne hbody]
    rfl
  · exact linesFrom_line hbody pos t

/-- Induction along the lines of a text. -/
@[elab_as_elim]
theorem line_induction {motive : Text → Prop} (nil : motive [])
    (last : ∀ body, body ≠ [] → '\n' ∉ body → motive body)
    (line : ∀ body rest, '\n' ∉ body → motive rest → motive (body ++ '\n' :: rest)) (s : Text) :
    motive s := by
  induction hlength : s.length using Nat.strongRecOn generalizing s with
  | _ n ih =>
    by_cases hs : '\n' ∈ s
    · rcases List.eq_append_cons_of_mem hs with ⟨body, rest, rfl, hbody⟩
      refine line body rest hbody (ih rest.length ?_ rest rfl)
      simp only [List.length_append, List.length_cons] at hlength
      omega
    · by_cases hempty : s = []
      · rw [hempty]
        exact nil
      · exact last s hempty hs

/-- A text is the end of a line and what it holds of the next one. -/
theorem exists_endsLine_append (s : Text) :
    ∃ front body, s = front ++ body ∧ EndsLine front ∧ '\n' ∉ body := by
  induction s using line_induction with
  | nil => exact ⟨[], [], rfl, endsLine_nil, List.not_mem_nil⟩
  | last body _ hbody => exact ⟨[], body, rfl, endsLine_nil, hbody⟩
  | line body rest hbody ih =>
    rcases ih with ⟨front, body', rfl, hfront, hbody'⟩
    refine ⟨body ++ ['\n'] ++ front, body', by simp, (endsLine_concat body).append hfront, hbody'⟩

/-- The lines of two texts follow each other if the first text ends its last line. -/
theorem linesFrom_append {front : Text} (hfront : EndsLine front) (pos : Nat) (s : Text) :
    linesFrom pos (front ++ s) = linesFrom pos front ++ linesFrom (pos + front.length) s := by
  induction front using line_induction generalizing pos with
  | nil => simp [linesFrom]
  | last body hne hbody => exact absurd hfront (not_endsLine hne hbody)
  | line body rest hbody ih =>
    have hrest : EndsLine rest := by
      rcases hfront with h | h
      · simp at h
      · cases rest with
        | nil => exact endsLine_nil
        | cons c rest => exact Or.inr (by simpa using h)
    have hpos : pos + body.length + 1 + rest.length = pos + (body.length + (rest.length + 1)) := by
      omega
    rw [List.append_assoc, List.cons_append, linesFrom_line hbody, linesFrom_line hbody, ih hrest]
    simp [hpos]

/-- Where a line stands: behind the lines before it, each of which has one line feed, at its end. -/
theorem exists_of_linesFrom_eq {pos : Nat} {s : Text} {before after : List Passage} {line : Passage}
    (h : linesFrom pos s = before ++ line :: after) :
    ∃ front body rest, s = front ++ body ++ rest ∧ EndsLine front ∧ AtLineEnd rest ∧
      '\n' ∉ body ∧ line = ⟨pos + front.length, body ++ rest.take 1⟩ ∧
      front.count '\n' = before.length := by
  induction s using line_induction generalizing pos before with
  | nil => simp [linesFrom] at h
  | last body hne hbody =>
    rw [linesFrom_last hne hbody] at h
    cases before with
    | nil =>
      refine ⟨[], body, [], by simp, endsLine_nil, atLineEnd_nil, hbody, ?_, rfl⟩
      simp [← (List.cons.inj h).1]
    | cons first before => simp at h
  | line body rest hbody ih =>
    rw [linesFrom_line hbody] at h
    cases before with
    | nil =>
      refine ⟨[], body, '\n' :: rest, by simp, endsLine_nil, Or.inr rfl, hbody, ?_, rfl⟩
      simp [← (List.cons.inj h).1]
    | cons first before =>
      rcases ih (List.cons.inj h).2 with ⟨front, body', rest', hs, hfront, hrest, hbody', hline, hcount⟩
      refine ⟨body ++ ['\n'] ++ front, body', rest', by simp [hs],
        (endsLine_concat body).append hfront, hrest, hbody', ?_, ?_⟩
      · have hpos : pos + body.length + 1 + front.length =
            pos + (body.length + (front.length + 1)) := by
          omega
        simp [hline, hpos]
      · rw [List.count_append, List.count_append, List.count_eq_zero.mpr hbody, hcount,
          List.length_cons, Nat.add_comm]
        simp

/-- A line stands behind the end of the line before it, and holds no line feed but at its end. -/
theorem mem_linesFrom {pos : Nat} {s : Text} {line : Passage} (h : line ∈ linesFrom pos s) :
    ∃ front body rest, s = front ++ body ++ rest ∧ EndsLine front ∧ AtLineEnd rest ∧
      '\n' ∉ body ∧ line = ⟨pos + front.length, body ++ rest.take 1⟩ := by
  rcases List.append_of_mem h with ⟨before, after, hlines⟩
  obtain ⟨front, body, rest, hs, hfront, hrest, hbody, hline, -⟩ := exists_of_linesFrom_eq hlines
  exact ⟨front, body, rest, hs, hfront, hrest, hbody, hline⟩

/-- What stands behind the end of a line, up to and with the next line feed, is a line. -/
theorem mem_lines {front body rest : Text} (hfront : EndsLine front) (hbody : '\n' ∉ body)
    (hrest : AtLineEnd rest) (hne : body ++ rest ≠ []) :
    ⟨front.length, body ++ rest.take 1⟩ ∈ lines (front ++ (body ++ rest)) := by
  rw [lines, linesFrom_append hfront, Nat.zero_add, linesFrom_eq_cons hbody hrest hne]
  exact List.mem_append_right _ (List.mem_cons_self ..)

/-- A text that is behind the end of a line begins with a line, which has the next character as
well, be that a line feed or not. -/
theorem exists_mem_lines {front body : Text} (hfront : EndsLine front) (hbody : '\n' ∉ body)
    (c : Char) (rest : Text) :
    ∃ tail, ⟨front.length, body ++ c :: tail⟩ ∈ lines (front ++ (body ++ c :: rest)) := by
  by_cases hc : c = '\n'
  · have hrest : AtLineEnd (c :: rest) := Or.inr (congrArg some hc)
    exact ⟨[], mem_lines hfront hbody hrest (by simp)⟩
  · have hline : '\n' ∉ body ++ c :: rest.takeWhile (· ≠ '\n') := by
      rw [List.mem_append, List.mem_cons, not_or, not_or]
      exact ⟨hbody, Ne.symm hc, lineFeed_notMem_takeWhile rest⟩
    have hend := atLineEnd_dropWhile rest
    have hmem := mem_lines hfront hline hend (by simp)
    rw [List.append_assoc, List.append_assoc, List.cons_append, List.cons_append,
      List.takeWhile_append_dropWhile] at hmem
    exact ⟨_, hmem⟩

/-- No line goes on behind a line feed. -/
theorem notMem_dropLast_of_mem_linesFrom {pos : Nat} {s : Text} {line : Passage}
    (h : line ∈ linesFrom pos s) : '\n' ∉ line.text.dropLast := by
  rcases mem_linesFrom h with ⟨front, body, rest, -, -, hrest, hbody, rfl⟩
  rcases hrest.cases with rfl | ⟨t, rfl⟩
  · rw [List.take_nil, List.append_nil]
    exact fun hmem => hbody (List.dropLast_subset _ hmem)
  · simpa using hbody

/-- A line that another one follows ends in a line feed. -/
theorem getLast?_of_linesFrom_eq {pos : Nat} {s : Text} {before after : List Passage}
    {line : Passage} (h : linesFrom pos s = before ++ line :: after) (hafter : after ≠ []) :
    line.text.getLast? = some '\n' := by
  induction s using line_induction generalizing pos before with
  | nil => simp [linesFrom] at h
  | last body hne hbody =>
    rw [linesFrom_last hne hbody] at h
    cases before with
    | nil => exact absurd (List.cons.inj h).2.symm hafter
    | cons first before => simp at h
  | line body rest hbody ih =>
    rw [linesFrom_line hbody] at h
    cases before with
    | nil =>
      rw [← (List.cons.inj h).1]
      exact List.getLast?_concat
    | cons first before => exact ih (List.cons.inj h).2

/-- Texts without line feeds, each ended by one, are the lines of the text they join up to. -/
theorem map_text_linesFrom_endLine {entries : List Text} (h : ∀ entry ∈ entries, '\n' ∉ entry)
    (pos : Nat) : (linesFrom pos (entries.flatMap endLine)).map (·.text) = entries.map endLine := by
  induction entries generalizing pos with
  | nil => rfl
  | cons entry entries ih =>
    rcases List.forall_mem_cons.mp h with ⟨hentry, hentries⟩
    rw [List.flatMap_cons, endLine, List.append_assoc, List.singleton_append, linesFrom_line hentry,
      List.map_cons, ih hentries, List.map_cons, endLine]

/-! ## Lines that are moved -/

/-- A text that starts elsewhere has the same lines elsewhere. -/
theorem linesFrom_add (pos distance : Nat) (s : Text) :
    linesFrom (pos + distance) s = (linesFrom pos s).map (·.shift distance) := by
  induction s using line_induction generalizing pos with
  | nil => rfl
  | last body hne hbody => simp [linesFrom_last hne hbody, Passage.shift]
  | line body rest hbody ih =>
    have hpos : pos + distance + body.length + 1 = pos + body.length + 1 + distance := by omega
    rw [linesFrom_line hbody, linesFrom_line hbody, hpos, ih]
    rfl

/-- The lines of two texts follow each other, those of the second one behind the first text. -/
theorem lines_append {front : Text} (hfront : EndsLine front) (s : Text) :
    lines (front ++ s) = lines front ++ (lines s).map (·.shift front.length) := by
  unfold lines
  rw [linesFrom_append hfront, linesFrom_add]

end Text

end MlogHighlight
