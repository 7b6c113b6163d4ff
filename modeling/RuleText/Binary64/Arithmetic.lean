import RuleText.Binary64.Basic

/-!
# Products and quotients of floating point numbers

The product or the quotient of two finite values is rounded once. Infinities and values that are no number
come out as the format has it: they spread, and a product of zero and infinity or a quotient of two zeros or
of two infinities is no number.

Main definitions:

- `Binary64.times`, `Binary64.dividedBy`: products and quotients;
- `Binary64.powerOfTen`: the value nearest to a power of ten.
-/

namespace RuleText.Binary64

/-- A product. -/
def times (x y : Binary64) : Binary64 :=
  match x, y with
  | finite a m e, finite b n f =>
    let (p, q) := powTwo (e + f)
    ofRatio (a != b) (m * n * p) q
  | infinite a, finite b m _ | finite a m _, infinite b => if m = 0 then nan else infinite (a != b)
  | infinite a, infinite b => infinite (a != b)
  | _, _ => nan

/-- A quotient. -/
def dividedBy (x y : Binary64) : Binary64 :=
  match x, y with
  | finite a m e, finite b n f =>
    if n = 0 then if m = 0 then nan else infinite (a != b)
    else
      let (p, q) := powTwo (e - f)
      ofRatio (a != b) (m * p) (n * q)
  | finite a _ _, infinite b => zero (a != b)
  | infinite a, finite b _ _ => infinite (a != b)
  | _, _ => nan

/-- The value nearest to a power of ten. -/
def powerOfTen (k : Nat) : Binary64 :=
  ofRatio false (Nat.pow 10 k) 1

/-- Whether a value is zero, of either sign. -/
def isZero : Binary64 → Bool
  | finite _ 0 _ => true
  | _ => false

end RuleText.Binary64
