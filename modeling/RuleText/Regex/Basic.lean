import RuleText.CharClass.Property

/-!
# Regular expressions and their meaning

A regular expression here is what is left of a pattern once its syntax has been read: single characters
out of a class, assertions about a position, sequence, choice and counted repetition. Groups, greediness
and flags are gone, since none of them bears on which stretches of a text match.

The type has two parameters, one for what a single step may consume and one for what an assertion says,
because the matcher works on a copy whose leaves are sets of positions. The meaning is therefore given
once, for any reading of the leaves: `Spans` relates two positions when the expression matches what
lies between them.

Main definitions:

- `Regex`, and `CharRegex` for expressions over character classes;
- `Regex.Spans`: the meaning, relative to a reading of the leaves;
- `Assertion.holds`: when an assertion holds between two neighbouring characters;
- `CharRegex.Matches` and `CharRegex.FoundIn`: matching a stretch of a text, and anywhere in it.
-/

namespace RuleText

/-- Regular expressions over steps `σ` and assertions `α`. -/
inductive Regex (σ α : Type) where
  /-- The empty stretch. -/
  | empty
  /-- One step. -/
  | one (step : σ)
  /-- The empty stretch, where an assertion holds. -/
  | assert (claim : α)
  | seq (r s : Regex σ α)
  | alt (r s : Regex σ α)
  /-- At least `least` repetitions, and at most `most` if that is given. -/
  | times (r : Regex σ α) (least : Nat) (most : Option Nat)
deriving Repr

/-- Exactly `n` steps of a relation, one after the other. -/
def Steps (R : Nat → Nat → Prop) : Nat → Nat → Nat → Prop
  | 0, i, j => i = j
  | n + 1, i, j => ∃ k, R i k ∧ Steps R n k j

namespace Regex

variable {σ α : Type}

/-- The expression matches what lies between the positions `i` and `j`, where `takes s i` says that the
step `s` may consume what stands at `i`, and `holds a i` that the assertion `a` holds at `i`. -/
def Spans (takes : σ → Nat → Prop) (holds : α → Nat → Prop) : Regex σ α → Nat → Nat → Prop
  | empty, i, j => i = j
  | one s, i, j => takes s i ∧ j = i + 1
  | assert a, i, j => holds a i ∧ i = j
  | seq r s, i, j => ∃ k, r.Spans takes holds i k ∧ s.Spans takes holds k j
  | alt r s, i, j => r.Spans takes holds i j ∨ s.Spans takes holds i j
  | times r least most, i, j =>
    ∃ n, least ≤ n ∧ (∀ m, most = some m → n ≤ m) ∧ Steps (r.Spans takes holds) n i j

/-- The same expression with other leaves. -/
def mapLeaves {τ β : Type} (f : σ → τ) (g : α → β) : Regex σ α → Regex τ β
  | empty => empty
  | one s => one (f s)
  | assert a => assert (g a)
  | seq r s => seq (r.mapLeaves f g) (s.mapLeaves f g)
  | alt r s => alt (r.mapLeaves f g) (s.mapLeaves f g)
  | times r least most => times (r.mapLeaves f g) least most

/-- The sequence of a list of expressions. -/
def seqs : List (Regex σ α) → Regex σ α
  | [] => empty
  | [r] => r
  | r :: rest => seq r (seqs rest)

/-- The choice between an expression and those of a list. -/
def alts : Regex σ α → List (Regex σ α) → Regex σ α
  | r, [] => r
  | r, s :: rest => alt r (alts s rest)

end Regex

/-! ### Assertions about a position -/

/-- Which characters make up a word. -/
inductive WordRule where
  | unicode
  | ascii
deriving Repr, DecidableEq

/-- Whether a neighbouring character is there and belongs to a word. -/
def WordRule.covers : WordRule → Option Char → Bool
  | _, none => false
  | unicode, some c => isWordChar c
  | ascii, some c => isAsciiWordChar c

/-- What a pattern can say about a position without consuming anything. The line assertions come in two
sorts: lines end at a line feed, or at a carriage return, a line feed or the two together. -/
inductive Assertion where
  | textStart
  | textEnd
  | lineStart
  | lineEnd
  | anyLineStart
  | anyLineEnd
  | wordBoundary (rule : WordRule)
  | notWordBoundary (rule : WordRule)
  | wordStart (rule : WordRule)
  | wordEnd (rule : WordRule)
  /-- No word character before the position. -/
  | wordStartHalf (rule : WordRule)
  /-- No word character after the position. -/
  | wordEndHalf (rule : WordRule)
deriving Repr, DecidableEq

/-- Whether an assertion holds between two neighbouring characters, either of which may be missing. -/
def Assertion.holds : Assertion → (before after : Option Char) → Bool
  | textStart, before, _ => before.isNone
  | textEnd, _, after => after.isNone
  | lineStart, before, _ => before.isNone || before == some '\n'
  | lineEnd, _, after => after.isNone || after == some '\n'
  | anyLineStart, before, after =>
    before.isNone || before == some '\n' || (before == some '\r' && after != some '\n')
  | anyLineEnd, before, after =>
    after.isNone || after == some '\r' || (after == some '\n' && before != some '\r')
  | wordBoundary rule, before, after => rule.covers before != rule.covers after
  | notWordBoundary rule, before, after => rule.covers before == rule.covers after
  | wordStart rule, before, after => !rule.covers before && rule.covers after
  | wordEnd rule, before, after => rule.covers before && !rule.covers after
  | wordStartHalf rule, before, _ => !rule.covers before
  | wordEndHalf rule, _, after => !rule.covers after

/-! ### Matching a text -/

/-- Regular expressions over classes of characters. -/
abbrev CharRegex := Regex CharClass Assertion

/-- The character before a position of a text. -/
def charBefore (text : List Char) (i : Nat) : Option Char :=
  if i = 0 then none else text[i - 1]?

namespace CharRegex

/-- The expression matches what lies between two positions of a text. -/
def Matches (r : CharRegex) (text : List Char) : Nat → Nat → Prop :=
  Regex.Spans (fun cls i => ∃ c, text[i]? = some c ∧ cls.has c.toNat = true)
    (fun claim i => claim.holds (charBefore text i) text[i]? = true) r

/-- The expression matches some stretch of a text. -/
def FoundIn (r : CharRegex) (text : List Char) : Prop :=
  ∃ i j, i ≤ text.length ∧ r.Matches text i j

end CharRegex

end RuleText
