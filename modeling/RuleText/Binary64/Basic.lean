import RuleText.Text.Digits

/-!
# Binary floating point numbers of 64 bits

A number of this format is a sign, a significand of at most 53 bits and a power of two, or an infinity, or
no number at all. All arithmetic on it here is exact arithmetic on natural numbers, followed by a single
rounding to the nearest representable value, halves to the even neighbour.

Main definitions:

- `Binary64`: the values;
- `roundDiv`: the nearest integer to a quotient;
- `Binary64.ofRatio`, `Binary64.ofDecimal`: the value nearest to a quotient or to a decimal number;
- `Binary64.ofText?`: the value nearest to a number written in decimal.
-/

namespace RuleText

/-- Values of the 64-bit binary floating point format. A finite value is `significand * 2 ^ exponent`
with its sign; the exponent is the least that leaves the significand below `2 ^ 53`, but no less than
`-1074`. -/
inductive Binary64 where
  | nan
  | infinite (negative : Bool)
  | finite (negative : Bool) (significand : Nat) (exponent : Int)
deriving Repr, DecidableEq

/-- The integer nearest to `num / den`; a half goes to the even neighbour. -/
def roundDiv (num den : Nat) : Nat :=
  let q := num / den
  let r := num % den
  if 2 * r < den then q
  else if den < 2 * r then q + 1
  else if q % 2 = 0 then q else q + 1

/-- The power of two with exponent `e`, as a numerator and a denominator. -/
def powTwo (e : Int) : Nat × Nat :=
  if 0 ≤ e then (Nat.pow 2 e.toNat, 1) else (1, Nat.pow 2 (-e).toNat)

/-- The power of ten with exponent `e`, as a numerator and a denominator. -/
def powTen (e : Int) : Nat × Nat :=
  if 0 ≤ e then (Nat.pow 10 e.toNat, 1) else (1, Nat.pow 10 (-e).toNat)

namespace Binary64

/-- The least exponent of a finite value. -/
def minExponent : Int := -1074

/-- The greatest exponent of a finite value. -/
def maxExponent : Int := 971

/-- Zero with a sign. -/
def zero (negative : Bool) : Binary64 := finite negative 0 minExponent

/-- The greatest integer `e` with `2 ^ e ≤ num / den`, for positive numbers. -/
def floorLog2 (num den : Nat) : Int :=
  let e : Int := (num.log2 : Int) - (den.log2 : Int)
  let (p, q) := powTwo e
  if num * q < den * p then e - 1 else e

/-- The value nearest to `num / den`, infinite if that lies beyond the greatest finite value. -/
def ofRatio (negative : Bool) (num den : Nat) : Binary64 :=
  if num = 0 then zero negative
  else
    let exponent := max (floorLog2 num den - 52) minExponent
    let (p, q) := powTwo exponent
    let significand := roundDiv (num * q) (den * p)
    -- rounding may carry into one bit more than there is room for
    let (significand, exponent) :=
      if significand = Nat.pow 2 53 then (Nat.pow 2 52, exponent + 1) else (significand, exponent)
    if maxExponent < exponent then infinite negative else finite negative significand exponent

/-- The number of decimal digits of a number. -/
def digitCount (n : Nat) : Nat :=
  (decimalText n).length

/-- The value nearest to `digits * 10 ^ exponent`. Numbers far beyond either end of the range are
recognized by their magnitude alone. -/
def ofDecimal (negative : Bool) (digits : Nat) (exponent : Int) : Binary64 :=
  let magnitude := exponent + digitCount digits
  if digits = 0 ∨ magnitude < -330 then zero negative
  else if 310 < magnitude then infinite negative
  else
    let (p, q) := powTen exponent
    ofRatio negative (digits * p) q

/-- The value of an unsigned decimal number, with a fraction or an exponent or neither. -/
def ofUnsigned? (negative : Bool) (text : List Char) : Option Binary64 :=
  let (whole, rest) := text.span Char.isDigit
  let (fraction, rest) := match rest with
    | '.' :: more => more.span Char.isDigit
    | _ => ([], rest)
  if whole.isEmpty && fraction.isEmpty then none
  else
    let value (e : Int) : Binary64 :=
      ofDecimal negative (decimalValue (whole ++ fraction)) (e - fraction.length)
    match rest with
    | [] => some (value 0)
    | mark :: rest =>
      if mark != 'e' && mark != 'E' then none
      else
        let (minus, digits) : Bool × List Char := match rest with
          | '-' :: more => (true, more)
          | '+' :: more => (false, more)
          | _ => (false, rest)
        if digits.isEmpty || !digits.all Char.isDigit then none
        else
          let e : Int := decimalValue digits
          some (value (if minus then -e else e))

/-- The value of a number written in decimal, or of the name of one that is not finite. -/
def ofText? (text : String) : Option Binary64 :=
  let (negative, body) : Bool × List Char := match text.toList with
    | '-' :: rest => (true, rest)
    | '+' :: rest => (false, rest)
    | rest => (false, rest)
  match String.ofList (body.map Char.toLower) with
  | "nan" => some nan
  | "inf" | "infinity" => some (infinite negative)
  | _ => ofUnsigned? negative body

end Binary64

end RuleText
