import RuleText.Binary64.Layout

/-!
# JSON values

The values of a JSON text, as far as a reader can tell them apart: numbers without fraction and exponent
that fit 64 bits, signed or not, are integers, and all others are floating point numbers.
-/

namespace RuleText

/-- JSON values. -/
inductive Json where
  | null
  | boolean (b : Bool)
  | integer (n : Int)
  | real (x : Binary64)
  | string (text : List Char)
  | array (items : List Json)
  | object (members : List (List Char × Json))

/-- JSON writes a number with a point as long as that takes at most four zeros before its digits or
sixteen digits before the point, and else with a signed exponent; what is no finite number is `null`. -/
def jsonNumbers : NumberLayout where
  leastPlain := -5
  mostPlain := 15
  plusSign := true
  tie := .even
  nan := "null"
  infinity := "null"
  negativeInfinity := "null"

end RuleText
