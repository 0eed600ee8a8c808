import MlogHighlight.Proofs.Matcher

/-!
# Words are whole runs

The search for words may start at every place of a line, and may take a sigil or not. All the same,
it finds whole runs of word characters only, so nothing inside of a longer identifier is ever looked
up. Main facts:

* `Text.runsFrom_pairwise`: between two runs there is something else;
* `Word.matchesAt_eq_nil_inside`: nothing matches inside of a run, nor a run that does not begin like
  a word;
* `Word.find_runs`: the matches are the runs that begin like words.
-/

namespace MlogHighlight

open Text

/-! ## Runs are apart -/

namespace Text

variable {p : Char → Bool}

/-- The runs of a text are in order, and there is something between two of them. -/
theorem runsFrom_pairwise (pos : Nat) (s : Text) :
    (runsFrom p pos s).Pairwise fun a b => a.stop < b.start := by
  -- by length, since the runs go on behind the whole first run
  induction hlength : s.length using Nat.strongRecOn generalizing pos s with
  | _ n ih =>
    cases s with
    | nil => exact List.Pairwise.nil
    | cons c s =>
      simp only [List.length_cons] at hlength
      by_cases hc : p c = true
      · have hle := (List.dropWhile_sublist p (l := s)).length_le
        rw [runsFrom_cons_of_pos hc, List.pairwise_cons]
        refine ⟨?_, ih _ (by omega) _ _ rfl⟩
        intro run hrun
        have hstart := lt_start_of_mem_runsFrom (stops_dropWhile p s) hrun
        simp only [Passage.stop, List.length_cons]
        omega
      · rw [runsFrom_cons_of_neg (by simpa using hc)]
        exact ih _ (by omega) _ _ rfl

/-- A run is what the text has at its positions. -/
theorem content_of_isRun {s : Text} {run : Passage} (h : IsRun p s run) :
    run.span.content s = run.text := by
  rcases h with ⟨before, after, hs, hstart, -⟩
  exact Span.content_span hs (by simpa using hstart)

/-- Two runs are the same run, or apart. -/
theorem IsRun.eq_or_apart {s : Text} {run run' : Passage} (h : IsRun p s run)
    (h' : IsRun p s run') : run = run' ∨ run.span.Apart run'.span := by
  have hordered : ((runs p s).map (·.span)).Pairwise fun a b => a.stop ≤ b.start := by
    rw [List.pairwise_map]
    exact (runsFrom_pairwise 0 s).imp Nat.le_of_lt
  rcases Span.eq_or_apart hordered (List.mem_map_of_mem (mem_runs.mpr h))
    (List.mem_map_of_mem (mem_runs.mpr h')) with hspan | hapart
  · left
    have htext : run.text = run'.text := by
      rw [← content_of_isRun h, hspan, content_of_isRun h']
    have hstart : run.start = run'.start := congrArg Span.start hspan
    cases run
    cases run'
    simp_all
  · exact Or.inr hapart

end Text

namespace Word

open Pattern

/-- The text begins with a letter, number or underscore, or with a sigil and one of these. -/
def Begins (s : Text) : Prop :=
  ∃ c rest, isHead c = true ∧ (s = c :: rest ∨ s = sigil :: c :: rest)

theorem beginsWord_iff {s : Text} : beginsWord s = true ↔ Begins s := by
  constructor
  · intro h
    cases s with
    | nil => simp [beginsWord] at h
    | cons c s =>
      simp only [beginsWord, Bool.or_eq_true, Bool.and_eq_true, beq_iff_eq] at h
      rcases h with hc | ⟨rfl, hs⟩
      · exact ⟨c, s, hc, Or.inl rfl⟩
      · cases s with
        | nil => simp at hs
        | cons d s => exact ⟨d, s, by simpa using hs, Or.inr rfl⟩
  · rintro ⟨c, rest, hc, rfl | rfl⟩
    · simp [beginsWord, hc]
    · simp [beginsWord, hc]

/-- A search finds the words of a line and nothing else, not even empty matches. -/
theorem find_pattern (line : Text) : pattern.find 0 [] line = (all line).map (·.span) :=
  find_eq (Or.inl stops_nil)

theorem mem_find_pattern {line : Text} {span : Span} : span ∈ pattern.find 0 [] line ↔
    ∃ run, IsRun isBody line run ∧ Begins run.text ∧ run.span = span := by
  rw [find_pattern, List.mem_map]
  constructor
  · rintro ⟨run, hrun, rfl⟩
    rw [mem_all, beginsWord_iff] at hrun
    exact ⟨run, hrun.1, hrun.2, rfl⟩
  · rintro ⟨run, hrun, hbegins, rfl⟩
    exact ⟨run, mem_all.mpr ⟨hrun, beginsWord_iff.mpr hbegins⟩, rfl⟩

/-- At no place of a run, but for the beginning of one that begins like a word, there is a way to
match. -/
theorem matchesAt_eq_nil_inside {front back after : Text} (before : Text)
    (hrun : (front ++ back).all isBody = true) (h : front ≠ [] ∨ ¬ Begins (back ++ after)) :
    pattern.matchesAt ⟨front.reverse ++ before, back ++ after⟩ = [] := by
  by_cases hfront : front = []
  · have hbegins : ¬ Begins (back ++ after) := h.resolve_left fun hne => hne hfront
    rw [← beginsWord_iff, Bool.not_eq_true] at hbegins
    exact matchesAt_eq_nil_of_not_beginsWord hbegins _
  · -- a word character is behind the place
    rw [List.all_append, Bool.and_eq_true] at hrun
    have hne : front.reverse ≠ [] := by simpa using hfront
    apply matchesAt_eq_nil_of_not_stops
    rw [stops_append_of_ne_nil hne]
    exact not_stops_of_all hne (by rw [List.all_reverse]; exact hrun.1)

/-- What follows a run does not change how it begins. -/
theorem begins_append {word after : Text} (hne : word ≠ []) (hafter : Stops isBody after) :
    Begins (word ++ after) ↔ Begins word := by
  rw [← beginsWord_iff, ← beginsWord_iff]
  cases word with
  | nil => exact absurd rfl hne
  | cons c word =>
    cases word with
    | cons d word => simp [beginsWord]
    | nil =>
      cases after with
      | nil => simp
      | cons d after =>
        have hd : isHead d = false := by
          by_contra hhead
          rw [Bool.not_eq_false] at hhead
          simp [isBody_of_isHead hhead] at hafter
        simp [beginsWord, hd]

end Word

/-- A passage with a word character right in front of it or right behind it is not looked up. -/
theorem Matcher.notMem_spans_members (words : List Text) {before word after : Text}
    (hlonger : ¬ Stops Word.isBody before.reverse ∨ ¬ Stops Word.isBody after) :
    (⟨before.length, (before ++ word).length⟩ : Span) ∉
      (Matcher.members words).spans (before ++ word ++ after) := by
  intro hmem
  rw [Matcher.spans, List.mem_map] at hmem
  rcases hmem with ⟨run, hrun, hspan⟩
  rcases (Word.mem_all.mp (List.mem_of_mem_filter hrun)).1 with
    ⟨before', after', hline, hstart, -, -, hbefore, hafter⟩
  simp only [Passage.span, Passage.stop, Span.mk.injEq, List.length_append] at hspan
  -- the run is at the place of the passage, so the same is in front of it and behind it
  have hfront : before.length = before'.length := by omega
  have hlength : word.length = run.text.length := by omega
  rw [List.append_assoc, List.append_assoc] at hline
  rcases List.append_inj hline hfront with ⟨rfl, hrest⟩
  rcases List.append_inj hrest hlength with ⟨-, rfl⟩
  exact hlonger.elim (fun h => h hbefore) fun h => h hafter

/-- The matches of the pattern of words are, in order, the runs of word characters that begin with a
letter, number or underscore, behind at most one sigil; there is something between two of them, and
each has all the characters of its run. A run with another beginning has no match in it, and at none
of its places the pattern has a way to match. So the words of a set are compared with whole runs
only, and what is part of a longer run is never found. -/
theorem Word.find_runs (line : Text) :
    (pattern.find 0 [] line).Pairwise (fun a b => a.stop < b.start) ∧
    (∀ span, span ∈ pattern.find 0 [] line ↔
      ∃ run, IsRun isBody line run ∧ Begins run.text ∧ run.span = span) ∧
    (∀ run, IsRun isBody line run → run.span.content line = run.text) ∧
    (∀ run, IsRun isBody line run → ¬ Begins run.text →
      (∀ span ∈ pattern.find 0 [] line, span.Apart run.span) ∧
      ∀ front back, run.text = front ++ back → back ≠ [] →
        pattern.matchesAt ⟨(line.take (run.start + front.length)).reverse,
          line.drop (run.start + front.length)⟩ = []) ∧
    (∀ words, (Matcher.members words).spans line =
      (pattern.find 0 [] line).filter fun span => span.content line ∈ words) ∧
    ∀ words before word after, line = before ++ word ++ after →
      ¬ Stops isBody before.reverse ∨ ¬ Stops isBody after →
      ⟨before.length, (before ++ word).length⟩ ∉ (Matcher.members words).spans line := by
  refine ⟨?_, fun span => mem_find_pattern, fun run => content_of_isRun, ?_, ?_, ?_⟩
  · rw [find_pattern, List.pairwise_map]
    exact (runsFrom_pairwise 0 line).filter _
  · intro run hrun hbegins
    constructor
    · intro span hspan
      rcases mem_find_pattern.mp hspan with ⟨found, hfound, hfoundBegins, rfl⟩
      rcases hfound.eq_or_apart hrun with rfl | hapart
      · exact absurd hfoundBegins hbegins
      · exact hapart
    · intro front back htext hback
      rcases hrun with ⟨before, after, hline, hstart, -, hall, -, hafter⟩
      rw [htext] at hall hbegins
      have hplace : run.start + front.length = (before ++ front).length := by
        rw [List.length_append, hstart, Nat.zero_add]
      have hsplit : line = (before ++ front) ++ (back ++ after) := by
        rw [hline, htext]
        simp only [List.append_assoc]
      rw [hplace, hsplit, List.take_left, List.drop_left, List.reverse_append]
      apply matchesAt_eq_nil_inside before.reverse hall
      by_cases hfront : front = []
      · right
        rw [hfront, List.nil_append] at hbegins
        rwa [begins_append hback hafter]
      · exact Or.inl hfront
  · intro words
    rw [Matcher.spans, find_pattern, List.filter_map]
    congr 1
    apply List.filter_congr
    intro word hword
    rw [Function.comp_apply, content_span hword]
  · rintro words before word after rfl hlonger
    exact Matcher.notMem_spans_members words hlonger

/-- In `x@copper @@set -1`, the second and the third run begin like no word, though `set` and `1`
would. -/
example : Word.all "x@copper @@set -1 @a" = [⟨0, "x@copper"⟩, ⟨18, "@a"⟩] := by decide

end MlogHighlight
