import MlogHighlight.Proofs.Comment
import MlogHighlight.Proofs.Label
import MlogHighlight.Proofs.Span
import MlogHighlight.Proofs.Word
import MlogHighlight.RuleTable

/-!
# What matchers find

Every matcher looks for a pattern, and those with a list of words drop the matches that are not on
the list. So what is known of patterns holds for all matchers. Main facts:

* `Matcher.spans_eq`: a matcher finds the spans of its pattern that it accepts;
* `Matcher.bounds_of_mem_spans`, `Matcher.spans_pairwise`: what it finds is not empty, lies inside
  the line, is in order and does not overlap.
-/

namespace MlogHighlight

namespace Word

/-- The words of a line are known by their spans. -/
theorem content_span {line : Text} {word : Passage} (h : word ∈ all line) :
    word.span.content line = word.text := by
  rcases (mem_all.mp h).1 with ⟨before, after, hline, hstart, -⟩
  exact Span.content_span hline (by simpa using hstart)

end Word

namespace Matcher

/-- The pattern of what is looked for. -/
def pattern : Matcher → Pattern
  | .comment => Comment.pattern
  | .labelDefinition => Label.definitionPattern
  | .labelReference => Label.referencePattern
  | .members _ => Word.pattern

/-- Is a match with this text one that is looked for? -/
def accepts : Matcher → Text → Bool
  | .members words, s => words.contains s
  | _, _ => true

/-- A matcher finds the matches of its pattern that it accepts. -/
theorem spans_eq (matcher : Matcher) (line : Text) :
    matcher.spans line =
      (matcher.pattern.spans line).filter fun span => matcher.accepts (span.content line) := by
  cases matcher with
  | comment => simp [spans, pattern, accepts, Comment.spans_pattern]
  | labelDefinition => simp [spans, pattern, accepts, Label.spans_definitionPattern]
  | labelReference => simp [spans, pattern, accepts, Label.spans_referencePattern]
  | members words =>
    simp only [spans, pattern, accepts, Word.spans_pattern, List.filter_map]
    congr 1
    apply List.filter_congr
    intro word hword
    rw [Function.comp_apply, Word.content_span hword, List.contains_eq_mem]

/-- What a matcher finds is not empty and lies inside the line. -/
theorem bounds_of_mem_spans {matcher : Matcher} {line : Text} {span : Span}
    (h : span ∈ matcher.spans line) : span.start < span.stop ∧ span.stop ≤ line.length := by
  rw [spans_eq, List.mem_filter] at h
  exact Pattern.bounds_of_mem_spans _ h.1

/-- What a matcher finds is in order and does not overlap. -/
theorem spans_pairwise (matcher : Matcher) (line : Text) :
    (matcher.spans line).Pairwise fun a b => a.stop ≤ b.start := by
  rw [spans_eq]
  exact (Pattern.spans_pairwise _ line).filter _

end Matcher

end MlogHighlight
