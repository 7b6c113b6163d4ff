import RuleText.Evaluation.Context

/-!
# Evaluating a program

A program is evaluated item by item in document order. The first error stops the evaluation; what was
written for earlier statements stays written.

Main definitions:

- `Statement.evaluate`, `Program.evaluateItems`: one statement, and items from a context on;
- `Program.evaluate`: a program, from its properties to an output.
-/

namespace RuleText

/-- Collects conditions one after the other, up to the first that has no regular expression. -/
def collectAll (c : Context) : List Condition → Except EvalError Unit × Context
  | [] => (.ok (), c)
  | condition :: others =>
    match (c.setPattern condition.pattern).collect condition.name with
    | (.ok (), c) => collectAll c others
    | (.error e, c) => (.error e, c)

variable {ω : Type} [Output ω]

/-- Evaluates a statement; the answer tells whether it fired. -/
def Statement.evaluate (s : Statement) (c : Context) (out : ω) :
    Except EvalError Bool × Context × ω :=
  match collectAll c s.conditions with
  | (.error e, c) => (.error e, c, out)
  | (.ok (), c) => (c.capture s.output).complete out

/-- Evaluates items in order. -/
def evaluateItems (c : Context) (out : ω) : List Item → Except EvalError Stats × ω
  | [] => (.ok c.stats, out)
  | .binding b :: others => evaluateItems (c.declare b) out others
  | .statement s :: others =>
    match s.evaluate c out with
    | (.error e, _, out) => (.error e, out)
    | (.ok _, c, out) => evaluateItems c out others

/-- Evaluates a program with given properties. -/
def Program.evaluate (p : Program) (properties : Properties) (out : ω) :
    Except EvalError Stats × ω :=
  evaluateItems { properties := properties } out p.items

end RuleText
