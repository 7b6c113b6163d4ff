import RuleText.Regex.Basic
import Std.Data.HashMap

/-!
# Places in a text

A text of `n` characters has `n + 1` positions, before each of its characters and at its end. A set of
positions is a natural number read in binary: position `i` is in the set when bit `i` is set. The
characters of a text are therefore kept as one such set for each of them, and what a class or an assertion
says of all positions at once is put together from these by operations on bits.

Main definitions:

- `Places`, `Places.ofText`: where the characters of a text stand;
- `Places.of`: the positions before a character that satisfies a predicate;
- `Places.holding`: the positions at which an assertion holds.
-/

namespace RuleText

/-- The positions of one set that are not in another. -/
def minus (a b : Nat) : Nat :=
  a ^^^ (a &&& b)

/-- The characters of a text with the positions before them. -/
structure Places where
  /-- How many characters the text has, which is also its last position. -/
  length : Nat
  characters : List (Char × Nat)

namespace Places

/-- For each character the positions before it, as far as they are known. -/
abbrev Found := @Std.HashMap Char Nat instBEqOfDecidableEq instHashableChar

/-- Adds the characters of a text that begins at a position. -/
def collect : List Char → (position : Nat) → Found → Found
  | [], _, found => found
  | c :: rest, position, found =>
    collect rest (position + 1) (found.insert c (found.getD c 0 ||| 1 <<< position))

/-- The places of the characters of a text. -/
def ofText (text : List Char) : Places :=
  ⟨text.length, (collect text 0 {}).toList⟩

/-- All positions. -/
def all (places : Places) : Nat :=
  1 <<< (places.length + 1) - 1

/-- The positions before a character that satisfies a predicate. -/
def of (places : Places) (p : Char → Bool) : Nat :=
  places.characters.foldl (fun set (c, positions) => if p c then set ||| positions else set) 0

/-- The positions behind a character that satisfies a predicate. -/
def behind (places : Places) (p : Char → Bool) : Nat :=
  places.of p <<< 1

/-- The position at the end. -/
def last (places : Places) : Nat :=
  1 <<< places.length

/-- The positions at which an assertion holds. -/
def holding (places : Places) : Assertion → Nat
  | .textStart => 1
  | .textEnd => places.last
  | .lineStart => 1 ||| places.behind (· == '\n')
  | .lineEnd => places.last ||| places.of (· == '\n')
  | .anyLineStart =>
    1 ||| places.behind (· == '\n') |||
      minus (places.behind (· == '\r')) (places.of (· == '\n'))
  | .anyLineEnd =>
    places.last ||| places.of (· == '\r') |||
      minus (places.of (· == '\n')) (places.behind (· == '\r'))
  | .wordBoundary rule =>
    places.behind (rule.covers ∘ some) ^^^ places.of (rule.covers ∘ some)
  | .notWordBoundary rule =>
    minus places.all (places.behind (rule.covers ∘ some) ^^^ places.of (rule.covers ∘ some))
  | .wordStart rule => minus (places.of (rule.covers ∘ some)) (places.behind (rule.covers ∘ some))
  | .wordEnd rule => minus (places.behind (rule.covers ∘ some)) (places.of (rule.covers ∘ some))
  | .wordStartHalf rule => minus places.all (places.behind (rule.covers ∘ some))
  | .wordEndHalf rule => minus places.all (places.of (rule.covers ∘ some))

end Places

end RuleText
