import RuleText.Binary64.Shortest

/-!
# Writing floating point numbers

How the digits of a number are laid out is a set of decisions, kept in one record for each place that
writes numbers: from which to which magnitude the point is written among the digits, what the exponent
looks like beyond that, and how values without digits are called.
-/

namespace RuleText

/-- The decisions of a way to write numbers. -/
structure NumberLayout where
  /-- The least exponent of a leading digit that is written with a point. -/
  leastPlain : Int
  /-- The greatest one. -/
  mostPlain : Int
  /-- Whether a positive exponent has a sign. -/
  plusSign : Bool
  tie : TieRule
  nan : String
  infinity : String
  negativeInfinity : String
deriving Repr

namespace NumberLayout

/-- A number with a point among or before its digits, or behind them with a zero after it; `leading` is
the exponent of the first digit. -/
def plain (digits : List Char) (leading : Int) : List Char :=
  if leading < 0 then
    '0' :: '.' :: List.replicate ((-leading).toNat - 1) '0' ++ digits
  else
    let whole := leading.toNat + 1
    if digits.length ≤ whole then
      digits ++ List.replicate (whole - digits.length) '0' ++ ['.', '0']
    else digits.take whole ++ '.' :: digits.drop whole

/-- A number with one digit before the point and an exponent. -/
def scientific (layout : NumberLayout) (digits : List Char) (leading : Int) : List Char :=
  let mantissa := match digits with
    | [] => []
    | [d] => [d]
    | d :: more => d :: '.' :: more
  let sign := if layout.plusSign ∧ 0 ≤ leading then ['+'] else []
  mantissa ++ 'e' :: sign ++ integerText leading

/-- A number without its sign. -/
def magnitude (layout : NumberLayout) (significand : Nat) (exponent : Int) : List Char :=
  let d := shortest layout.tie significand exponent
  let digits := decimalText d.digits
  let leading := d.exponent + digits.length - 1
  if layout.leastPlain ≤ leading ∧ leading ≤ layout.mostPlain then plain digits leading
  else layout.scientific digits leading

/-- A number as text. -/
def write (layout : NumberLayout) : Binary64 → String
  | .nan => layout.nan
  | .infinite negative => if negative then layout.negativeInfinity else layout.infinity
  | .finite negative significand exponent =>
    let text := layout.magnitude significand exponent
    String.ofList (if negative then '-' :: text else text)

end NumberLayout

end RuleText
