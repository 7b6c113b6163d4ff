import RuleText.Regex.Places

/-!
# Matching by sets of positions

The question whether an expression matches somewhere in a text is answered for many starting positions at
once. A leaf of the expression becomes a set of positions (those before a character of its class, those at
which its assertion holds), and an expression becomes a function on sets: from the positions where a match
may begin to those where it may end. A step then is a conjunction and a shift, a choice a disjunction, and
a repetition runs until no new position appears, which happens after at most as many rounds as there are
positions.

Main definitions:

- `rounds`, `spread`: repeating a function on sets;
- `Regex.reach`: from starting positions to end positions.
-/

namespace RuleText

/-- `n` rounds of `f`, stopping early at a fixed point. -/
def rounds (f : Nat → Nat) : Nat → Nat → Nat
  | 0, s => s
  | n + 1, s => let t := f s; if t = s then s else rounds f n t

/-- What `f` reaches from `fresh` in at most `n` rounds, added to `seen`; each round continues from the
positions not seen before. -/
def spread (f : Nat → Nat) : Nat → (seen fresh : Nat) → Nat
  | 0, seen, _ => seen
  | n + 1, seen, fresh =>
    let all := f fresh ||| seen
    -- `all` contains `seen`, so the exclusive or leaves the new positions
    if all = seen then seen else spread f n all (all ^^^ seen)

/-- The positions where a match may end, given those where it may begin. The leaves are sets of
positions below `count`. -/
def Regex.reach (count : Nat) : Regex Nat Nat → Nat → Nat
  | empty, s => s
  | one steps, s => (s &&& steps) <<< 1
  | assert places, s => s &&& places
  | seq q r, s => r.reach count (q.reach count s)
  | alt q r, s => q.reach count s ||| r.reach count s
  | times r least most, s =>
    let start := rounds (r.reach count) least s
    -- without an upper bound, every further round that matters adds a position
    let further := match most with
      | none => count
      | some m => m - least
    if most.any (· < least) then 0 else spread (r.reach count) further start start

end RuleText
