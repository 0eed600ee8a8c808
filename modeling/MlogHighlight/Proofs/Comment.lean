import MlogHighlight.Comment
import MlogHighlight.Proofs.Line
import MlogHighlight.Proofs.Pattern
import MlogHighlight.Proofs.Run

/-!
# Comments and their pattern

Main facts:

* `Comment.spans_pattern`: the pattern of comments finds the comments of a text, in order;
* `Comment.mem_spans`: a comment runs from the first `#` of a line to the end of the line.
-/

namespace MlogHighlight.Comment

open Pattern Text

/-- The pattern of comments, `#.*`. -/
def pattern : Pattern where
  captured := [.one (· == start), .many (· ≠ '\n')]

/-- The span runs from the first `#` of a line to the end of that line. -/
def IsComment (s : Text) (span : Span) : Prop :=
  ∃ front code text rest, s = front ++ code ++ start :: text ++ rest ∧ EndsLine front ∧
    start ∉ code ∧ '\n' ∉ code ∧ '\n' ∉ text ∧ AtLineEnd rest ∧
    span.start = (front ++ code).length ∧ span.stop = (front ++ code).length + 1 + text.length

/-! ## The comment of a line -/

theorem inLine?_of_comment {code text : Text} (hcode : start ∉ code) (hline : '\n' ∉ code)
    (htext : '\n' ∉ text) {rest : Text} (hrest : AtLineEnd rest) (pos : Nat) :
    inLine? ⟨pos, code ++ start :: text ++ rest.take 1⟩ =
      some ⟨pos + code.length, pos + code.length + 1 + text.length⟩ := by
  have hstart : start ≠ '\n' := by decide
  have hfirst : (code ++ start :: text ++ rest.take 1).takeWhile (· ≠ start) = code := by
    rw [List.append_assoc]
    exact takeWhile_append_of_run (all_ne_of_notMem hcode) (by simp)
  have hcontent : (code ++ start :: text ++ rest.take 1).takeWhile (· ≠ '\n') =
      code ++ start :: text := by
    have hbody : '\n' ∉ code ++ start :: text := by simp [hline, htext, hstart.symm]
    apply takeWhile_append_of_run (all_ne_of_notMem hbody)
    rcases hrest.cases with rfl | ⟨t, rfl⟩ <;> simp
  simp only [inLine?, hfirst, hcontent, List.length_append, List.length_cons]
  rw [if_pos (by omega)]
  congr 2
  omega

theorem inLine?_of_code {code : Text} (hcode : start ∉ code) {rest : Text} (hrest : AtLineEnd rest)
    (pos : Nat) : inLine? ⟨pos, code ++ rest.take 1⟩ = none := by
  have hstart : start ≠ '\n' := by decide
  have hline : start ∉ code ++ rest.take 1 := by
    rcases hrest.cases with rfl | ⟨t, rfl⟩ <;> simp [hcode, hstart]
  have hfirst : (code ++ rest.take 1).takeWhile (· ≠ start) = code ++ rest.take 1 := by
    simpa using takeWhile_append_of_run (all_ne_of_notMem hline) stops_nil
  have hcontent := (List.takeWhile_sublist (· ≠ '\n') (l := code ++ rest.take 1)).length_le
  simp only [inLine?, hfirst]
  rw [if_neg (Nat.not_lt.mpr hcontent)]

/-- The content of a line is code, or code in front of a comment. -/
theorem code_or_comment (body : Text) :
    start ∉ body ∨ ∃ code text, body = code ++ start :: text ∧ start ∉ code := by
  by_cases hbody : start ∈ body
  · rcases List.eq_append_cons_of_mem hbody with ⟨code, text, rfl, hcode⟩
    exact Or.inr ⟨code, text, rfl, hcode⟩
  · exact Or.inl hbody

/-- A comment runs from the first `#` of a line to the end of the line. -/
theorem mem_spans {s : Text} {span : Span} : span ∈ spans s ↔ IsComment s span := by
  rw [spans, List.mem_filterMap]
  constructor
  · intro h
    rcases h with ⟨line, hline, hspan⟩
    rcases mem_linesFrom hline with ⟨front, body, rest, rfl, hfront, hrest, hbody, rfl⟩
    rcases code_or_comment body with hcode | ⟨code, text, rfl, hcode⟩
    · rw [inLine?_of_code hcode hrest] at hspan
      simp at hspan
    · simp only [List.mem_append, List.mem_cons, not_or] at hbody
      rw [inLine?_of_comment hcode hbody.1 hbody.2.2 hrest, Option.some.injEq] at hspan
      exact ⟨front, code, text, rest, by simp, hfront, hcode, hbody.1, hbody.2.2, hrest,
        by simp [← hspan], by simp [← hspan]⟩
  · intro h
    rcases h with ⟨front, code, text, rest, rfl, hfront, hcode, hline, htext, hrest, hstart, hstop⟩
    have hbody : '\n' ∉ code ++ start :: text := by
      have hne : '\n' ≠ start := by decide
      simp [hline, htext, hne]
    refine ⟨⟨front.length, code ++ start :: text ++ rest.take 1⟩, ?_, ?_⟩
    · have hmem := mem_lines hfront hbody hrest (by simp)
      rwa [← List.append_assoc, ← List.append_assoc] at hmem
    · rw [inLine?_of_comment hcode hline htext hrest]
      simp only [List.length_append] at hstart hstop
      cases span
      simp_all

/-! ## The search -/

theorem head?_matchesAt_start (before : Text) (s : Text) :
    (pattern.matchesAt ⟨before, start :: s⟩).head? =
      some ⟨⟨before.length, before.length + 1 + (s.takeWhile (· ≠ '\n')).length⟩,
        ⟨(s.takeWhile (· ≠ '\n')).reverse ++ start :: before, s.dropWhile (· ≠ '\n')⟩⟩ := by
  have hone : (Item.one (· == start)).ends ⟨before, start :: s⟩ = [⟨start :: before, s⟩] := by
    simp [Item.ends, single, Cursor.pass]
  have hposition : ((s.takeWhile (· ≠ '\n')).reverse ++ start :: before).length =
      before.length + 1 + (s.takeWhile (· ≠ '\n')).length := by
    simp only [List.length_append, List.length_reverse, List.length_cons]
    omega
  have hmany := head?_ends_many (· ≠ '\n') ⟨start :: before, s⟩
  simp only [matchesAt, pattern, ends_nil, ends_cons (.one _), hone, List.flatMap_singleton,
    ends_singleton, List.map_singleton, ← List.map_eq_flatMap, List.head?_map, hmany,
    Option.map_some, Cursor.position, Cursor.pass, hposition]

theorem matchesAt_eq_nil {c : Char} (hc : c ≠ start) (before s : Text) :
    pattern.matchesAt ⟨before, c :: s⟩ = [] := by
  have hone : (Item.one (· == start)).ends ⟨before, c :: s⟩ = [] := by
    simp [Item.ends, single, hc]
  simp [matchesAt, pattern, ends_cons, hone]

theorem find_code {code : Text} (hcode : start ∉ code) (before rest : Text) :
    pattern.find 0 before (code ++ rest) = pattern.find 0 (code.reverse ++ before) rest := by
  induction code generalizing before with
  | nil => rfl
  | cons c code ih =>
    simp only [List.mem_cons, not_or] at hcode
    have hnone := matchesAt_eq_nil (fun h => hcode.1 h.symm) before (code ++ rest)
    rw [List.cons_append, find_cons_of_none pattern (by rw [hnone]; rfl), ih hcode.2]
    simp

theorem find_comment {text rest : Text} (htext : '\n' ∉ text) (hrest : AtLineEnd rest)
    (before : Text) :
    pattern.find 0 before (start :: (text ++ rest)) =
      ⟨before.length, before.length + 1 + text.length⟩ ::
        pattern.find 0 (text.reverse ++ start :: before) rest := by
  have hall := all_ne_of_notMem htext
  have hstops : Stops (· ≠ '\n') rest := by
    rcases hrest.cases with rfl | ⟨t, rfl⟩ <;> simp
  have hmatch := head?_matchesAt_start before (text ++ rest)
  rw [takeWhile_append_of_run hall hstops, dropWhile_append_of_run hall hstops] at hmatch
  exact find_cons_of_some pattern rfl hmatch

/-- The search along the content of a line finds its comment. -/
theorem find_body {body rest : Text} (hbody : '\n' ∉ body) (hrest : AtLineEnd rest) (before : Text) :
    pattern.find 0 before (body ++ rest) =
      (inLine? ⟨before.length, body ++ rest.take 1⟩).toList ++
        pattern.find 0 (body.reverse ++ before) rest := by
  rcases code_or_comment body with hcode | ⟨code, text, rfl, hcode⟩
  · rw [inLine?_of_code hcode hrest, find_code hcode]
    rfl
  · simp only [List.mem_append, List.mem_cons, not_or] at hbody
    have hposition : (code.reverse ++ before).length = before.length + code.length := by
      rw [List.length_append, List.length_reverse, Nat.add_comm]
    rw [inLine?_of_comment hcode hbody.1 hbody.2.2 hrest, List.append_assoc, find_code hcode,
      List.cons_append, find_comment hbody.2.2 hrest, hposition]
    simp

/-- The search along the lines of a text. -/
theorem find_eq (before s : Text) :
    pattern.find 0 before s = (linesFrom before.length s).filterMap inLine? := by
  have hend : ∀ front, pattern.find 0 front [] = [] := by
    intro front
    simp [find, matchesAt, pattern, ends_cons, Item.ends, single]
  induction s using line_induction generalizing before with
  | nil => simp [hend, linesFrom]
  | last body hne hbody =>
    have hfind := find_body hbody atLineEnd_nil before
    rw [List.take_nil, List.append_nil, hend] at hfind
    rw [hfind, linesFrom_last hne hbody]
    cases hline : inLine? ⟨before.length, body⟩ <;> simp [hline]
  | line body rest hbody ih =>
    -- behind the content of the line, the search passes the line feed
    have hfeed : start ∉ ['\n'] := by decide
    have hfind := find_body hbody (Or.inr rfl : AtLineEnd ('\n' :: rest)) before
    have hafter := find_code hfeed (body.reverse ++ before) rest
    have hlength : (['\n'].reverse ++ (body.reverse ++ before)).length =
        before.length + body.length + 1 := by
      simp only [List.length_append, List.length_reverse, List.length_cons, List.length_nil]
      omega
    rw [ih, hlength] at hafter
    rw [hfind, linesFrom_line hbody]
    change _ ++ pattern.find 0 _ (['\n'] ++ rest) = _
    rw [hafter]
    cases hline : inLine? ⟨before.length, body ++ ['\n']⟩ <;> simp [hline]

/-- The pattern finds the comments of a text, in order. -/
theorem spans_pattern (s : Text) : pattern.spans s = spans s := by
  have hfind : pattern.find 0 [] s = spans s := find_eq [] s
  rw [Pattern.spans, hfind, List.filter_eq_self]
  intro span hspan
  rcases mem_spans.mp hspan with ⟨front, code, text, rest, -, -, -, -, -, -, hstart, hstop⟩
  simp only [decide_eq_true_eq]
  omega

end MlogHighlight.Comment
