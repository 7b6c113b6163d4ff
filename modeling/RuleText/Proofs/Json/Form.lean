import Mathlib.Algebra.Group.Int.Defs
import Mathlib.Algebra.Group.Nat.Defs
import RuleText.Property.Json

/-!
# Ways to write properties in JSON

One object can be written in many ways. White space may stand between any two tokens. In a string, a
character may stand for itself or be written as an escape: some by a letter of their own, all by four
hexadecimal digits, in capital letters or not, and those beyond sixteen bits by the two halves of a surrogate
pair. Names may come more than once. Only numbers have one form here, an integer in decimal without leading
zeros.

Each of these is a relation between what is meant and the text that it is written as. No reader is involved.

Main definitions:

- `Json.Blank`, `Json.FourDigits`: white space, and the digits of an escape;
- `Json.CharForm`, `Json.TextForm`: the forms of a character and of the text of a string;
- `Json.Scalar`, `Json.ScalarForm`: booleans, integers and strings, and their forms;
- `Json.integerLimit`, `Json.rounded`, `Json.Scalar.Gives`: which integers are numbers, and the values of scalars;
- `Json.MembersForm`, `Json.ObjectForm`: the forms of an object.
-/

namespace RuleText.Json

/-! ### Strings -/

/-- White space of JSON and nothing else. -/
def Blank (text : List Char) : Prop :=
  ∀ c ∈ text, c = ' ' ∨ c = '\n' ∨ c = '\t' ∨ c = '\r'

/-- Four hexadecimal digits with a value. -/
def FourDigits (n : Nat) (digits : List Char) : Prop :=
  digits.length = 4 ∧ hexValue? digits = some n

instance (n : Nat) (digits : List Char) : Decidable (FourDigits n digits) :=
  inferInstanceAs (Decidable (digits.length = 4 ∧ hexValue? digits = some n))

/-- The letters of escapes and the characters they stand for. -/
def escapeLetters : List (Char × Char) :=
  [('"', '"'), ('\\', '\\'), ('/', '/'), ('b', '\x08'), ('f', '\x0c'), ('n', '\n'), ('r', '\r'),
    ('t', '\t')]

/-- The forms of a character in a string. -/
inductive CharForm : Char → List Char → Prop where
  /-- Itself, unless it is a control character, a quote or a backslash. -/
  | plain {c : Char} (hcontrol : 0x20 ≤ c.toNat) (hquote : c ≠ '"') (hbackslash : c ≠ '\\') :
      CharForm c [c]
  | letter {c letter : Char} (h : (letter, c) ∈ escapeLetters) : CharForm c ['\\', letter]
  | code {c : Char} {digits : List Char} (h : FourDigits c.toNat digits) :
      CharForm c ('\\' :: 'u' :: digits)
  /-- The two halves of a surrogate pair. -/
  | pair {c : Char} {high low : List Char} (hc : 0x10000 ≤ c.toNat)
      (hhigh : FourDigits (0xD800 + (c.toNat - 0x10000) / 0x400) high)
      (hlow : FourDigits (0xDC00 + (c.toNat - 0x10000) % 0x400) low) :
      CharForm c ('\\' :: 'u' :: high ++ '\\' :: 'u' :: low)

/-- The forms of a text between the quotes of a string. -/
inductive TextForm : List Char → List Char → Prop where
  | nil : TextForm [] []
  | cons {c : Char} {text form rest : List Char} (hc : CharForm c form) (htext : TextForm text rest) :
      TextForm (c :: text) (form ++ rest)

/-! ### Scalars -/

/-- What properties are written from: booleans, strings, and integers of any size. -/
inductive Scalar where
  | boolean (b : Bool)
  | integer (n : Int)
  | string (s : String)

/-- The forms of a scalar. -/
inductive ScalarForm : Scalar → List Char → Prop where
  | boolean (b : Bool) : ScalarForm (.boolean b) (booleanText b)
  | integer (n : Int) : ScalarForm (.integer n) (integerText n)
  | string {s : String} {form : List Char} (h : TextForm s.toList form) :
      ScalarForm (.string s) ('"' :: form ++ ['"'])

/-! ### Values of scalars -/

/-- As many of the first digits of an integer as come to an integer of 64 bits, and the number of places that
are left behind them. -/
structure Leading (n digits places : Nat) : Prop where
  eq : digits = n / 10 ^ places
  fits : digits < 2 ^ 64
  most : ∀ fewer < places, 2 ^ 64 ≤ n / 10 ^ fewer

/-- The first digits of an integer as a floating point number, times the power of ten that the other places
make. Both factors are rounded, and so is the product. -/
def rounded (negative : Bool) (digits places : Nat) : Binary64 :=
  (Binary64.ofRatio negative digits 1).times (.powerOfTen places)

/-- The least integer that is too large for a number. It lies between the two greatest floating point numbers,
closer to the greatest. -/
def integerLimit : Nat :=
  17976931348623156225 * 10 ^ 289

/-- Integers of 64 bits are far below the limit. -/
theorem lt_integerLimit {n : Nat} (h : n ≤ 2 ^ 64) : n < integerLimit := by
  have hplaces : ∀ places, 0 < places → 2 ^ 64 < 17976931348623156225 * 10 ^ places := by
    intro places hpos
    calc 2 ^ 64 < 17976931348623156225 * 10 := by decide
      _ ≤ 17976931348623156225 * 10 ^ places := Nat.mul_le_mul_left _ (Nat.le_pow hpos)
  rw [integerLimit]
  exact Nat.lt_of_le_of_lt h (hplaces 289 (by decide))

/-- A scalar that can be read: any but an integer that is too large. -/
def Scalar.InRange : Scalar → Prop
  | integer n => n.natAbs < integerLimit
  | boolean _ | string _ => True

instance : (scalar : Scalar) → Decidable scalar.InRange
  | .integer n => inferInstanceAs (Decidable (n.natAbs < integerLimit))
  | .boolean _ | .string _ => .isTrue trivial

/-- The value that a scalar is as a property. Strings and booleans are what they are, and so are the integers
of 64 bits. Any other integer is a floating point number, made of its first digits, with its sign and as far
from zero as these are. -/
inductive Scalar.Gives : Scalar → Value → Prop where
  | boolean (b : Bool) : Gives (.boolean b) (.boolean b)
  | integer (n : Int64) : Gives (.integer n.toInt) (.integer n)
  | float {n : Int} {digits places significand exponent : Nat} (hn : n < -(2 : Int) ^ 63 ∨ (2 : Int) ^ 63 ≤ n)
      (hdigits : Leading n.natAbs digits places)
      (hx : rounded (n < 0) digits places = .finite (n < 0) significand exponent)
      (hfar : 2 ^ 63 ≤ significand * 2 ^ exponent) :
      Gives (.integer n) (.float (.finite (n < 0) significand exponent))
  | string (s : String) : Gives (.string s) (.string s)

/-- An integer of 64 bits gives itself and nothing else. -/
theorem Scalar.Gives.eq_integer {n : Int64} {v : Value} (h : (Scalar.integer n.toInt).Gives v) :
    v = .integer n := by
  have hlow := n.le_toInt
  have hhigh := n.toInt_lt
  generalize hscalar : Scalar.integer n.toInt = scalar at h
  cases h with
  | boolean b => cases hscalar
  | integer m =>
    rw [Int64.toInt_inj.mp (Scalar.integer.inj hscalar)]
  | float hn _ _ _ =>
    have hn' := Scalar.integer.inj hscalar
    omega
  | string s => cases hscalar

/-- There is one way to cut an integer into leading digits and places. -/
theorem Leading.unique {n d d' p p' : Nat} (h : Leading n d p) (h' : Leading n d' p') : d = d' ∧ p = p' := by
  have hle : ∀ {d d' p p' : Nat}, Leading n d p → Leading n d' p' → p ≤ p' := by
    intro d d' p p' h h'
    refine Nat.le_of_not_lt fun hlt => ?_
    -- with fewer places the digits would not fit
    have hmost := h.most p' hlt
    rw [← h'.eq] at hmost
    exact absurd h'.fits (Nat.not_lt_of_le hmost)
  obtain rfl : p = p' := Nat.le_antisymm (hle h h') (hle h' h)
  exact ⟨h.eq.trans h'.eq.symm, rfl⟩

/-- **A scalar gives one value.** -/
theorem Scalar.Gives.unique {scalar : Scalar} {v w : Value} (hv : scalar.Gives v) (hw : scalar.Gives w) :
    v = w := by
  cases hv with
  | boolean b =>
    cases hw with
    | boolean _ => rfl
  | integer n => exact hw.eq_integer.symm
  | float hn hdigits hx hfar =>
    cases hw with
    | integer m => exact (Scalar.Gives.float hn hdigits hx hfar).eq_integer
    | float _ hdigits' hx' _ =>
      obtain ⟨rfl, rfl⟩ := hdigits.unique hdigits'
      rw [← hx, ← hx']
  | string s =>
    cases hw with
    | string _ => rfl

/-! ### Objects -/

/-- The forms of a member of an object. -/
inductive MemberForm : String × Scalar → List Char → Prop where
  | mk {name : String} {scalar : Scalar} {before form between behind value : List Char}
      (hbefore : Blank before) (hname : TextForm name.toList form) (hbetween : Blank between)
      (hbehind : Blank behind) (hscalar : ScalarForm scalar value) :
      MemberForm (name, scalar)
        (before ++ '"' :: form ++ '"' :: between ++ ':' :: behind ++ value)

/-- The forms of the members of an object up to its closing brace; `first` says that no member stands in
front of them. -/
inductive MembersForm : (first : Bool) → List (String × Scalar) → List Char → Prop where
  | close {first : Bool} {blank : List Char} (h : Blank blank) :
      MembersForm first [] (blank ++ ['\x7d'])
  | first {entry : String × Scalar} {others : List (String × Scalar)} {form rest : List Char}
      (hmember : MemberForm entry form) (hrest : MembersForm false others rest) :
      MembersForm true (entry :: others) (form ++ rest)
  | more {entry : String × Scalar} {others : List (String × Scalar)} {blank form rest : List Char}
      (hblank : Blank blank) (hmember : MemberForm entry form) (hrest : MembersForm false others rest) :
      MembersForm false (entry :: others) (blank ++ ',' :: form ++ rest)

/-- The forms of an object with white space around it. -/
def ObjectForm (entries : List (String × Scalar)) (text : List Char) : Prop :=
  ∃ before members after, Blank before ∧ Blank after ∧ MembersForm true entries members ∧
    text = before ++ '\x7b' :: members ++ after

/-- Every member takes at least one character. -/
theorem MembersForm.length_le {first : Bool} {entries : List (String × Scalar)} {text : List Char}
    (h : MembersForm first entries text) : entries.length ≤ text.length := by
  have hmember : ∀ {entry : String × Scalar} {form : List Char}, MemberForm entry form → 0 < form.length := by
    intro entry form hform
    cases hform
    simp only [List.length_append, List.length_cons]
    omega
  induction h with
  | close hblank => exact Nat.zero_le _
  | first hform hrest ih =>
    have hpos := hmember hform
    rw [List.length_cons, List.length_append]
    omega
  | more hblank hform hrest ih =>
    have hpos := hmember hform
    rw [List.length_cons, List.length_append, List.length_append, List.length_cons]
    omega

end RuleText.Json
