/-!
# Tables of code points

A property of characters is a set of code points, and the sets of the Unicode standard are long lists of
intervals, many of them alternating (upper case, lower case, upper case, …). A table is therefore a list
of runs, each an arithmetic progression: first, last and step.
-/

namespace RuleText.Unicode

/-- The code points `first`, `first + step`, `first + 2 * step`, … up to `last`. -/
structure CodeRun where
  first : Nat
  last : Nat
  step : Nat
deriving Repr, DecidableEq

/-- Whether a code point belongs to a run. -/
def CodeRun.has (run : CodeRun) (n : Nat) : Bool :=
  run.first ≤ n && n ≤ run.last && (n - run.first) % run.step == 0

/-- A set of code points as a list of runs. -/
abbrev CodeTable := List CodeRun

/-- Whether a code point belongs to a run of the table. -/
def CodeTable.has (table : CodeTable) (n : Nat) : Bool :=
  table.any (·.has n)

theorem CodeTable.has_eq_true_iff {table : CodeTable} {n : Nat} :
    table.has n = true ↔ ∃ run ∈ table, run.has n = true := by
  simp [CodeTable.has]

end RuleText.Unicode
