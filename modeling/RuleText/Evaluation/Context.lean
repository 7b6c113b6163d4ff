import RuleText.Evaluation.Condition
import RuleText.Property.Basic
import RuleText.Sink.Basic

/-!
# The context of a run

A run keeps the properties, the names bound so far, and what has been read of the statement under way: a
pattern that waits for its name, the conditions, and the text to emit. Completing a statement decides
whether it fires, writes its line if so, and clears the conditions and the properties. Properties are thus
seen by bindings before the first statement only, while names stay bound for the whole run.

Main definitions:

- `Context`, and `Context.declare`, `setPattern`, `collect`, `capture`, `complete`;
- `Stats`: how many statements there were and how many of them fired;
- `EvalError`: why a run stops.
-/

namespace RuleText

/-- How many statements were completed, and how many of them fired. -/
structure Stats where
  statements : Nat := 0
  fired : Nat := 0
deriving Repr, DecidableEq

/-- Why a run stops. -/
inductive EvalError where
  /-- The pattern of a condition on a name is no regular expression. -/
  | invalidPattern (name : String) (pattern : Pattern)
  /-- A condition on a name came without a pattern. -/
  | missingPattern (name : String)
  | write (fault : WriteFault)
deriving Repr, DecidableEq

/-- The error as a message. What is wrong with a pattern is left open. -/
def EvalError.message : EvalError → String
  | invalidPattern name pattern =>
    s!"Invalid pattern `{pattern.describe}` for condition `{name}`: "
  | missingPattern name => s!"Condition `{name}` has no pattern"
  | write fault => s!"Failed to write output: {fault.message}"

/-- The state of a run. -/
structure Context where
  properties : Properties := {}
  bindings : Table String := {}
  /-- The conditions of the statement under way; the last one on a name counts. -/
  conditions : Table CharRegex := {}
  /-- The pattern that the next condition takes. -/
  pending : Option Pattern := none
  /-- What the statement under way will emit. -/
  output : Option String := none
  stats : Stats := {}

namespace Context

/-- Binds a name to the text of a property. If the property is not there, the name stays as it is. -/
def declare (c : Context) (b : Binding) : Context :=
  match c.properties.get? b.property with
  | some value => { c with bindings := c.bindings.insert b.name value.text }
  | none => c

/-- Holds a pattern for the next condition. -/
def setPattern (c : Context) (p : Pattern) : Context :=
  { c with pending := some p }

/-- Puts the pattern held as a condition on a name, in place of an earlier one. A pattern that is no
regular expression stops the run even if the statement would not have fired; it is no longer held. -/
def collect (c : Context) (name : String) : Except EvalError Unit × Context :=
  match c.pending with
  | none => (.error (.missingPattern name), c)
  | some pattern =>
    let c := { c with pending := none }
    match pattern.compile? with
    | none => (.error (.invalidPattern name pattern), c)
    | some regex => (.ok (), { c with conditions := c.conditions.insert name regex })

/-- Holds the text of a block for the end of the statement. -/
def capture (c : Context) (block : OutputBlock) : Context :=
  { c with output := some block.text }

/-- Whether every condition is on a bound name and its expression matches the value. -/
def conditionsHold (c : Context) : Bool :=
  c.conditions.entries.all fun (name, regex) =>
    (c.bindings.get? name).any fun value => regex.foundIn value.toList

/-- The context after a statement that has been completed. -/
def afterStatement (c : Context) (fired : Bool) : Context :=
  { c with
    properties := {}
    conditions := {}
    pending := none
    output := none
    stats := ⟨c.stats.statements + 1, c.stats.fired + fired.toNat⟩ }

/-- Completes the statement under way: if its conditions hold, writes its text and a line feed. When a
write fails, only the text is gone and the statement stays under way. -/
def complete {ω : Type} [Output ω] (c : Context) (out : ω) :
    Except EvalError Bool × Context × ω :=
  if c.conditionsHold then
    -- a statement without an output block emits an empty line
    let text := c.output.getD ""
    match Output.writeAll out (encodeUtf8 text.toList) with
    | (.error fault, out) => (.error (.write fault), { c with output := none }, out)
    | (.ok (), out) =>
      match Output.writeAll out (encodeUtf8 ['\n']) with
      | (.error fault, out) => (.error (.write fault), { c with output := none }, out)
      | (.ok (), out) => (.ok true, c.afterStatement true, out)
  else (.ok false, c.afterStatement false, out)

end Context

end RuleText
