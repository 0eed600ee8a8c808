import MlogHighlight.Classification

/-!
# Answers at a prompt

Lines typed at a prompt are classified one by one, and each is answered by its annotations.
-/

namespace MlogHighlight.Prompt

/-- The answer to a line: its annotations, one per line. -/
def answer (table : RuleTable) (line : Text) : Text :=
  (table.classify line 0).flatMap fun a => Text.endLine (a.describe line)

/-- The answers to some lines, with `prompt` in front of each. -/
def answers (prompt : Text) (table : RuleTable) (lines : List Text) : Text :=
  lines.flatMap fun line => prompt ++ answer table line

/-- All that is printed for some lines. At the end of the input the prompt stands alone on its
line. -/
def transcript (prompt : Text) (table : RuleTable) (lines : List Text) : Text :=
  answers prompt table lines ++ Text.endLine prompt

end MlogHighlight.Prompt
