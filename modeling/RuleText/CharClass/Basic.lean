import RuleText.Unicode.CodeTable
import RuleText.Unicode.CaseFold

/-!
# Classes of characters

A class of characters is kept as the expression that describes it: intervals, tables of the Unicode
standard, set operations and closure under case variants. Membership is decided by recursion on the
expression, so each operation on classes means what its name says and nothing has to be normalized.

Main definitions:

- `CharClass`: the expressions;
- `CharClass.has`: membership of a code point.
-/

namespace RuleText

/-- Which characters count as variants of one letter: those that simple case folding identifies, or the
two cases of an ASCII letter only. -/
inductive CaseRule where
  | simple
  | ascii
deriving Repr, DecidableEq

/-- The variants of a code point, itself included. -/
def CaseRule.variants : CaseRule → Nat → List Nat
  | .simple, n => Unicode.caseVariants n
  | .ascii, n =>
    if 0x41 ≤ n ∧ n ≤ 0x5A then [n, n + 0x20]
    else if 0x61 ≤ n ∧ n ≤ 0x7A then [n, n - 0x20]
    else [n]

/-- A class of characters, as the expression that describes it. -/
inductive CharClass where
  /-- No character. -/
  | empty
  /-- The code points from `first` to `last`. -/
  | between (first last : Nat)
  /-- The code points of a table. -/
  | table (rows : Unicode.CodeTable)
  | union (a b : CharClass)
  | inter (a b : CharClass)
  | diff (a b : CharClass)
  /-- What is in exactly one of two classes. -/
  | symDiff (a b : CharClass)
  /-- Every character outside a class. -/
  | compl (a : CharClass)
  /-- A class with the case variants of its members. -/
  | caseClosed (rule : CaseRule) (a : CharClass)
deriving Repr

namespace CharClass

/-- Membership of a code point. -/
def has : CharClass → Nat → Bool
  | empty, _ => false
  | between first last, n => first ≤ n && n ≤ last
  | table rows, n => rows.has n
  | union a b, n => a.has n || b.has n
  | inter a b, n => a.has n && b.has n
  | diff a b, n => a.has n && !b.has n
  | symDiff a b, n => a.has n != b.has n
  | compl a, n => !a.has n
  | caseClosed rule a, n => (rule.variants n).any fun m => a.has m

/-- The class of one character. -/
def single (c : Char) : CharClass := between c.toNat c.toNat

/-- Every character. -/
def any : CharClass := compl empty

/-- The union of a list of classes. -/
def unions (classes : List CharClass) : CharClass :=
  classes.foldr union empty

@[simp] theorem has_single (c d : Char) : (single c).has d.toNat = (c == d) := by
  rw [Bool.eq_iff_iff]
  simp only [single, has, Bool.and_eq_true, decide_eq_true_eq, beq_iff_eq]
  constructor
  · intro h
    exact Char.ext (UInt32.toNat_inj.mp (Nat.le_antisymm h.1 h.2))
  · rintro rfl
    exact ⟨Nat.le_refl _, Nat.le_refl _⟩

@[simp] theorem has_any (n : Nat) : any.has n = true := rfl

theorem has_unions (classes : List CharClass) (n : Nat) :
    (unions classes).has n = classes.any (·.has n) := by
  induction classes with
  | nil => rfl
  | cons a rest ih =>
    simp only [unions, List.foldr_cons, has, List.any_cons] at ih ⊢
    rw [ih]

end CharClass

end RuleText
