import RuleText.CharClass.Basic

/-!
# Classes as lists of intervals

A class of characters written out: the intervals of its members in rising order, none of which touches
the next. This form is the same for all expressions of one class, so two classes can be compared by it and
counted.

The ends of an interval are characters. No character lies between U+D7FF and U+E000, so two intervals that
end and begin there do touch.

Main definitions:

- `CodeInterval`, `nextCode`, `previousCode`: intervals of code points and the neighbours of a character;
- `CodeInterval.normalize`, `CodeInterval.complement`: unions of intervals and what lies between them;
- `CharClass.intervals`: a class written out.
-/

namespace RuleText

/-- The characters from `first` to `last`. -/
structure CodeInterval where
  first : Nat
  last : Nat
deriving Repr, DecidableEq

/-- The last code point. -/
def lastCode : Nat := 0x10FFFF

/-- The character after a character. -/
def nextCode (n : Nat) : Nat :=
  if n = 0xD7FF then 0xE000 else n + 1

/-- The character before a character. -/
def previousCode (n : Nat) : Nat :=
  if n = 0xE000 then 0xD7FF else n - 1

namespace CodeInterval

/-- Joins intervals that overlap or touch. The intervals come in the order of their beginnings. -/
def coalesce (intervals : List CodeInterval) : List CodeInterval :=
  let joined := intervals.foldl
    (fun done next =>
      match done with
      | [] => [next]
      | last :: before =>
        if next.first ≤ nextCode last.last then ⟨last.first, max last.last next.last⟩ :: before
        else next :: last :: before)
    []
  joined.reverse

/-- Puts an interval among others in the order of their beginnings, in front of those that begin with it. -/
def arrange (interval : CodeInterval) : List CodeInterval → List CodeInterval
  | [] => [interval]
  | other :: rest =>
    if interval.first ≤ other.first then interval :: other :: rest else other :: arrange interval rest

/-- The same characters in intervals that rise and do not touch. -/
def normalize (intervals : List CodeInterval) : List CodeInterval :=
  coalesce (intervals.foldr arrange [])

/-- What lies outside intervals that rise and do not touch. -/
def complement (intervals : List CodeInterval) : List CodeInterval :=
  let (gaps, next) := intervals.foldl
    (fun (gaps, next) interval =>
      (if next < interval.first then ⟨next, previousCode interval.first⟩ :: gaps else gaps,
        nextCode interval.last))
    (([], 0) : List CodeInterval × Nat)
  (if next ≤ lastCode then ⟨next, lastCode⟩ :: gaps else gaps).reverse

/-- What two lists of intervals that rise and do not touch have in common. -/
def common (a b : List CodeInterval) : List CodeInterval :=
  complement (normalize (complement a ++ complement b))

end CodeInterval

/-! ### Runs -/

/-- The members of a run as intervals. -/
def Unicode.CodeRun.intervals (run : CodeRun) : List CodeInterval :=
  if run.step = 1 then [⟨run.first, run.last⟩]
  else (List.range ((run.last - run.first) / run.step + 1)).map fun k =>
    ⟨run.first + k * run.step, run.first + k * run.step⟩

/-- The members of a run that lie in an interval, moved to where the run is folded to. -/
def Unicode.FoldRun.image (run : FoldRun) (interval : CodeInterval) : List CodeInterval :=
  let source := run.source
  let low := max interval.first source.first
  let high := min interval.last source.last
  if high < low then []
  else
    let skip := (low - source.first + source.step - 1) / source.step
    let first := source.first + skip * source.step
    if high < first then []
    else
      let move (n : Nat) : Nat := run.target + (n - source.first)
      (CodeRun.intervals ⟨first, high, source.step⟩).map fun i => ⟨move i.first, move i.last⟩

/-- The run that leads back. -/
def Unicode.FoldRun.reversed (run : FoldRun) : FoldRun :=
  ⟨⟨run.target, run.target + (run.source.last - run.source.first), run.source.step⟩,
    run.source.first⟩

/-- The runs of folding that a rule for case variants follows. -/
def CaseRule.runs : CaseRule → List Unicode.FoldRun
  | simple => Unicode.foldRuns
  | ascii => [⟨⟨0x41, 0x5A, 1⟩, 0x61⟩]

/-- Intervals together with the case variants of what is in them: whatever they fold to, and whatever
folds to the same. -/
def CaseRule.close (rule : CaseRule) (intervals : List CodeInterval) : List CodeInterval :=
  let folded := CodeInterval.normalize (intervals ++ rule.runs.flatMap fun run => intervals.flatMap run.image)
  folded ++ rule.runs.flatMap fun run => folded.flatMap run.reversed.image

/-! ### Classes -/

namespace CharClass

/-- The members of a class as intervals in any order, put in front of others. -/
def pieces : CharClass → List CodeInterval → List CodeInterval
  | empty, others => others
  | between first last, others => if first ≤ last then ⟨first, last⟩ :: others else others
  | table rows, others => rows.flatMap (·.intervals) ++ others
  | union a b, others => a.pieces (b.pieces others)
  | inter a b, others =>
    CodeInterval.common (CodeInterval.normalize (a.pieces [])) (CodeInterval.normalize (b.pieces [])) ++ others
  | diff a b, others =>
    CodeInterval.common (CodeInterval.normalize (a.pieces []))
      (CodeInterval.complement (CodeInterval.normalize (b.pieces []))) ++ others
  | symDiff a b, others =>
    let left := CodeInterval.normalize (a.pieces [])
    let right := CodeInterval.normalize (b.pieces [])
    CodeInterval.common (CodeInterval.normalize (left ++ right))
      (CodeInterval.complement (CodeInterval.common left right)) ++ others
  | compl a, others => CodeInterval.complement (CodeInterval.normalize (a.pieces [])) ++ others
  | caseClosed rule a, others => rule.close (CodeInterval.normalize (a.pieces [])) ++ others

/-- A class written out. -/
def intervals (c : CharClass) : List CodeInterval :=
  CodeInterval.normalize (c.pieces [])

end CharClass

end RuleText
