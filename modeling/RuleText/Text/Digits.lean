/-!
# Numbers written in digits

Decimal and hexadecimal digits and the numbers they stand for. Hexadecimal digits are written in lower
case and read in either.

Main definitions:

- `decimalText`, `decimalValue`, `integerText`: decimal digits;
- `hexText`, `hexDigit?`, `hexValue?`: hexadecimal digits.

Main statement:

- `decimalValue_decimalText`: the digits of a number have that number as their value.
-/

namespace RuleText

/-! ### Decimal -/

/-- The decimal digits of a number. -/
def decimalText (n : Nat) : List Char :=
  Nat.toDigits 10 n

/-- The value of a list of decimal digits. -/
def decimalValue (digits : List Char) : Nat :=
  Nat.ofDigitChars 10 digits 0

/-- An integer in decimal, with a sign if it is negative. -/
def integerText (n : Int) : List Char :=
  if n < 0 then '-' :: decimalText n.natAbs else decimalText n.natAbs

@[simp] theorem decimalValue_decimalText (n : Nat) : decimalValue (decimalText n) = n :=
  Nat.ofDigitChars_ten_toDigits

theorem isDigit_of_mem_decimalText {n : Nat} {c : Char} (h : c ∈ decimalText n) : c.isDigit = true :=
  Nat.isDigit_of_mem_toDigits (by decide) (by decide) h

theorem decimalText_ne_nil (n : Nat) : decimalText n ≠ [] :=
  Nat.toDigits_ne_nil

/-! ### Hexadecimal -/

/-- A number in hexadecimal. -/
def hexText (n : Nat) : List Char :=
  Nat.toDigits 16 n

/-- The value of a hexadecimal digit. -/
def hexDigit? (c : Char) : Option Nat :=
  if '0' ≤ c ∧ c ≤ '9' then some (c.toNat - '0'.toNat)
  else if 'a' ≤ c ∧ c ≤ 'f' then some (c.toNat - 'a'.toNat + 10)
  else if 'A' ≤ c ∧ c ≤ 'F' then some (c.toNat - 'A'.toNat + 10)
  else none

/-- The value of a list of hexadecimal digits. -/
def hexValue? (digits : List Char) : Option Nat :=
  digits.foldlM (fun value c => (hexDigit? c).map (16 * value + ·)) 0

end RuleText
