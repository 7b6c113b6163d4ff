import RuleText.Binary64.Layout
import RuleText.Table
import RuleText.Text.Trim

/-!
# Properties

Properties are the only input to a rule program besides its text: scalars under names. A binding makes
the text of a value visible to conditions, so the text of each kind of value is fixed here. Numbers that
are not integers show it: they have a point or an exponent.

Main definitions:

- `Value`, `Value.text`;
- `Properties`, a table of values;
- `readAssignment`: a property given as `NAME=VALUE`.
-/

namespace RuleText

/-- The value of a property. -/
inductive Value where
  | boolean (b : Bool)
  | integer (n : Int64)
  | float (x : Binary64)
  | string (s : String)
deriving DecidableEq

/-- The text of a number: with a point from a ten-thousandth up to sixteen digits before the point, and
else with an exponent. -/
def textNumbers : NumberLayout where
  leastPlain := -4
  mostPlain := 15
  plusSign := false
  tie := .up
  nan := "NaN"
  infinity := "inf"
  negativeInfinity := "-inf"

/-- The text that a binding makes of a value. -/
def Value.text : Value → String
  | boolean b => if b then "true" else "false"
  | integer n => String.ofList (integerText n.toInt)
  | float x => textNumbers.write x
  | string s => s

/-- The values of a run under their names. -/
abbrev Properties := Table Value

/-! ### Assignments -/

/-- Splits `NAME=VALUE` at the first equals sign. White space around the name does not count, and a name
there must be; the value is a string, kept as it is. -/
def readAssignment (text : String) : Option (String × Value) :=
  match splitAtMark ['='] text.toList with
  | some (before, after) =>
    let name := trim before
    if name.isEmpty then none else some (String.ofList name, .string (String.ofList after))
  | none => none

end RuleText
