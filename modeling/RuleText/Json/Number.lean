import RuleText.Binary64.Arithmetic
import RuleText.Json.Basic

/-!
# The numbers of JSON

Digits are gathered into an integer of 64 bits without a sign for as long as it has room for them. The digits
left over count by their places alone. A number without fraction and exponent all of whose digits have found
room is an integer. Any other one is computed in floating point numbers, the integer times or over a power of
ten. That rounds three times, so it need not come to the value nearest to what is written; and a number is
refused whose product is infinite, even if what is written is less than the greatest finite value.

Main definitions:

- `Json.gather`: the digits that find room;
- `Json.scaled`: an integer times or over a power of ten;
- `Json.number?`: the number of a sign, digits, a fraction and an exponent.
-/

namespace RuleText.Json

/-- Takes digits on top of an integer while the result fits 64 bits; the others are left over. -/
def gather (n : Nat) : List Char → Nat × List Char
  | [] => (n, [])
  | c :: digits =>
    let next := 10 * n + (c.toNat - '0'.toNat)
    if next < UInt64.size then gather next digits else (n, c :: digits)

/-- The greatest exponent of a power of ten that is finite. -/
def maxPower : Nat := 308

/-- Divides by the greatest power of ten, unless zero has been reached before the last round. -/
def sinkBy : (rounds : Nat) → Binary64 → Binary64
  | 0, x => x
  | rounds + 1, x =>
    if x.isZero then x else sinkBy rounds (x.dividedBy (.powerOfTen maxPower))

/-- A value times a power of ten, if that is finite. A negative power is divided by, in parts that are finite
themselves. -/
def scaled (x : Binary64) (exponent : Int) : Option Binary64 :=
  if exponent < 0 then
    let n := (-exponent).toNat - 1
    some ((sinkBy (n / maxPower) x).dividedBy (.powerOfTen (n % maxPower + 1)))
  else if maxPower < exponent then
    if x.isZero then some x else none
  else
    match x.times (.powerOfTen exponent.toNat) with
    | .finite negative significand exponent => some (.finite negative significand exponent)
    | _ => none

/-- The number of a sign, digits, a fraction and an exponent; none if it is out of range. A negative zero is
not an integer, since integers have no sign to keep, and neither is a negative number beyond 64 bits with a
sign. -/
def number? (negative : Bool) (whole fraction : List Char) (exponent : Option Int) : Option Json :=
  let (n, left) := gather 0 whole
  let integral := fraction.isEmpty && exponent.isNone && left.isEmpty
  if integral ∧ !negative then some (.integer n)
  else if integral ∧ 0 < n ∧ Int64.minValue.toInt ≤ -(n : Int) then some (.integer (-(n : Int)))
  else
    -- the digits of the fraction go on where those before the point have stopped
    let (n, behind) := gather n fraction
    let places : Int := left.length - (fraction.length - behind.length : Nat)
    (scaled (.ofRatio negative n 1) (exponent.getD 0 + places)).map .real

end RuleText.Json
