import RuleText.Binary64.Basic

/-!
# The shortest decimal number that reads back

A finite value stands for every real number that rounds to it, which is an interval around it, the ends
included when the significand is even. Among the decimal numbers in that interval those with the fewest
digits are preferred, and among these the one nearest to the value. For a given number of digits only two
decimal numbers can qualify as the nearest, the neighbours of the value on the grid of that many digits; so
grids are tried from one digit on until a neighbour lies in the interval, which it does at the latest with
seventeen digits.

Main definitions:

- `Decimal`: digits and a power of ten;
- `Interval`: a value with the interval that rounds to it;
- `shortest`: the shortest decimal number in an interval.
-/

namespace RuleText

/-- The decimal number `digits * 10 ^ exponent`. -/
structure Decimal where
  digits : Nat
  exponent : Int
deriving Repr, DecidableEq

/-- Which of two decimal numbers at the same distance from a value is taken. -/
inductive TieRule where
  | up
  | even
deriving Repr, DecidableEq

/-- A positive value and the ends of the interval that rounds to it, all in units of a power of two. -/
structure Interval where
  low : Nat
  value : Nat
  high : Nat
  closed : Bool
  unit : Int
deriving Repr

/-- The interval that rounds to `significand * 2 ^ exponent`, in quarters of the last place. Below a power
of two the values lie twice as close, except among the smallest. -/
def Interval.around (significand : Nat) (exponent : Int) : Interval :=
  let below := if significand = Nat.pow 2 52 ∧ Binary64.minExponent < exponent then 1 else 2
  { low := 4 * significand - below
    value := 4 * significand
    high := 4 * significand + 2
    closed := significand % 2 = 0
    unit := exponent - 2 }

namespace Interval

/-- Whether the decimal number `c * 10 ^ k` lies in the interval. Both sides are multiplied out, with
`a` for the unit of the interval and `b` for the power of ten. -/
def holds (i : Interval) (a b c : Nat) : Bool :=
  if i.closed then i.low * a ≤ c * b && c * b ≤ i.high * a
  else i.low * a < c * b && c * b < i.high * a

/-- The factors that bring the unit of the interval and the power `10 ^ k` to a common denominator. -/
def scales (i : Interval) (k : Int) : Nat × Nat :=
  let (p, q) := powTwo i.unit
  let (r, s) := powTen k
  (p * s, q * r)

/-- The nearest multiple of `10 ^ k` in the interval, if one of the two neighbours of the value lies
there. -/
def onGrid? (tie : TieRule) (i : Interval) (k : Int) : Option Nat :=
  let (a, b) := i.scales k
  let c := i.value * a / b
  match i.holds a b c, i.holds a b (c + 1) with
  | true, false => some c
  | false, true => some (c + 1)
  | false, false => none
  | true, true =>
    let down := i.value * a - c * b
    let up := (c + 1) * b - i.value * a
    if down < up then some c
    else if up < down then some (c + 1)
    else match tie with
      | .up => some (c + 1)
      | .even => if c % 2 = 0 then some c else some (c + 1)

/-- The exponent of the leading decimal digit of the value. -/
def leadingExponent (i : Interval) : Int :=
  let (p, q) := powTwo i.unit
  let num := i.value * p
  if q ≤ num then (Binary64.digitCount (num / q) : Int) - 1
  else
    let places := Binary64.digitCount (q / num)
    if num * Nat.pow 10 (places - 1) = q then -((places : Int) - 1) else -(places : Int)

end Interval

/-- A decimal number without zeros at the end of its digits. -/
def dropZeros : (fuel : Nat) → Decimal → Decimal
  | 0, d => d
  | fuel + 1, d =>
    if d.digits ≠ 0 ∧ d.digits % 10 = 0 then dropZeros fuel ⟨d.digits / 10, d.exponent + 1⟩ else d

/-- The first grid with a multiple in the interval, from `count` digits on; the fuel bounds the number of
digits more. -/
def shortestFrom (tie : TieRule) (i : Interval) (leading : Int) : (fuel count : Nat) → Decimal
  | 0, count =>
    -- never reached: seventeen digits are enough for every value
    let k := leading - count + 1
    let (a, b) := i.scales k
    ⟨i.value * a / b, k⟩
  | fuel + 1, count =>
    let k := leading - count + 1
    match i.onGrid? tie k with
    | some digits => dropZeros 17 ⟨digits, k⟩
    | none => shortestFrom tie i leading fuel (count + 1)

/-- The shortest decimal number that rounds to `significand * 2 ^ exponent`. -/
def shortest (tie : TieRule) (significand : Nat) (exponent : Int) : Decimal :=
  if significand = 0 then ⟨0, 0⟩
  else
    let i := Interval.around significand exponent
    shortestFrom tie i i.leadingExponent 17 1

end RuleText
