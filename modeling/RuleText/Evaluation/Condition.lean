import RuleText.Program.Basic
import RuleText.Regex.Route
import RuleText.Regex.Syntax.Pattern

/-!
# What conditions demand

A condition demands that the whole value matches its pattern. The demand is made on the text of the
pattern, which is put between anchors before it is read. For a pattern that is well formed by itself this
says what it should; a text that only becomes well formed between the anchors is not refused.
-/

namespace RuleText

/-- The text of a pattern between anchors. -/
def anchored (source : List Char) : List Char :=
  ['^', '(', '?', ':'] ++ source ++ [')', '$']

@[simp] theorem length_anchored (source : List Char) : (anchored source).length = source.length + 6 := by
  simp [anchored]

/-- The text that is read for a pattern. -/
theorem ofList_anchored (source : String) :
    String.ofList (anchored source.toList) = "^(?:" ++ source ++ ")$" := by
  rw [anchored, String.ofList_append, String.ofList_append, String.ofList_toList]

/-- The expression that a value has to match for a pattern, if its text is one. -/
def Pattern.compile? (p : Pattern) : Option CharRegex :=
  CharRegex.ofText? (anchored p.source.toList)

end RuleText
