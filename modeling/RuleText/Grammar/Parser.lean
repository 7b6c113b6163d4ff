import RuleText.Grammar.ParseError

/-!
# Parsers and their combinators

A parser looks at an input from a position on and answers with the position behind what it took and a
value, or with an error. Parsers are combined in sequence, by choice and by repetition with separators.
A choice that fails altogether reports the error that lies furthest on, since that one usually names what
is really wrong; the same consideration tells a list where an item begins and then breaks off from a list
that simply ends.

Main definitions:

- `Parser`: parsers over tokens of any type that can be described;
- `Parser.equal`, `Parser.satisfy`, `Parser.fail`: parsers of one token, and of none;
- `Parser.preceded`, `Parser.delimited`, `Parser.pair`, `Parser.triple`: sequences;
- `Parser.choice`, `Parser.separatedList`, `Parser.map`, `Parser.unit`, `Parser.inContext`.
-/

namespace RuleText

/-- Tokens that messages can name. -/
class Describe (τ : Type) where
  describe : τ → String

export Describe (describe)

instance : Describe Char := ⟨String.singleton⟩

/-- A parser answers, for an input and a position in it, with the position behind what it took and a
value, or with an error. -/
abbrev Parser (τ α : Type) := Array τ → Nat → Except ParseError (Nat × α)

namespace Parser

variable {τ α β γ : Type}

/-! ### One token -/

/-- A token from which `f` extracts a value; `expected` describes such tokens. -/
def satisfy [Describe τ] (expected : String) (f : τ → Option α) : Parser τ α := fun input pos =>
  match input[pos]? with
  | none => .error { fault := .endOfInput expected, position := pos }
  | some token =>
    match f token with
    | some value => .ok (pos + 1, value)
    | none => .error { fault := .unexpected expected (describe token), position := pos }

/-- A certain token. -/
def equal [DecidableEq τ] [Describe τ] (token : τ) : Parser τ τ :=
  satisfy (describe token) fun found => if found = token then some found else none

/-- Refuses whatever is there, and blames the place `ahead` tokens further on. No other parser makes an error of
this kind; it stands for those that are written out by hand and reject what they have read. -/
def fail (reason : String) (ahead : Nat := 0) : Parser τ α := fun _ pos =>
  .error { fault := .failure reason, position := pos + ahead }

/-! ### Values and contexts -/

/-- Applies a function to the value of a parser. -/
def map (f : α → β) (p : Parser τ α) : Parser τ β := fun input pos =>
  match p input pos with
  | .ok (next, value) => .ok (next, f value)
  | .error e => .error e

/-- Forgets the value of a parser. -/
def unit (p : Parser τ α) : Parser τ Unit :=
  p.map fun _ => ()

/-- Names the construct that a parser reads, for its errors. -/
def inContext (construct : String) (p : Parser τ α) : Parser τ α := fun input pos =>
  match p input pos with
  | .ok answer => .ok answer
  | .error e => .error (e.within construct)

/-! ### Sequences -/

/-- One parser, then one that may depend on its value. -/
def andThen (p : Parser τ α) (next : α → Parser τ β) : Parser τ β := fun input pos =>
  match p input pos with
  | .ok (behind, value) => next value input behind
  | .error e => .error e

/-- Two parsers in sequence, with both values. -/
def pair (p : Parser τ α) (q : Parser τ β) : Parser τ (α × β) :=
  p.andThen fun a => q.map fun b => (a, b)

/-- Three parsers in sequence, with all values. -/
def triple (p : Parser τ α) (q : Parser τ β) (r : Parser τ γ) : Parser τ (α × β × γ) :=
  p.andThen fun a => q.andThen fun b => r.map fun c => (a, b, c)

/-- Two parsers in sequence, with the value of the second. -/
def preceded (p : Parser τ α) (q : Parser τ β) : Parser τ β :=
  p.andThen fun _ => q

/-- A parser between two others, with the value of the one in the middle. -/
def delimited (left : Parser τ α) (p : Parser τ β) (right : Parser τ γ) : Parser τ β :=
  left.andThen fun _ => p.andThen fun value => right.map fun _ => value

/-! ### Choice and lists -/

/-- The later one of two errors; of two at the same place the first. -/
def furthest (first : Option ParseError) (e : ParseError) : ParseError :=
  match first with
  | none => e
  | some f => if f.position < e.position then e else f

/-- The first parser that succeeds, given the furthest error of those tried before. -/
def choiceFrom (failed : Option ParseError) : List (Parser τ α) → Parser τ α
  | [], _, pos =>
    match failed with
    | none => .error { fault := .noAlternative, position := pos }
    | some e =>
      if pos < e.position then .error e else .error { fault := .noAlternative, position := pos }
  | p :: others, input, pos =>
    match p input pos with
    | .ok answer => .ok answer
    | .error e => choiceFrom (some (furthest failed e)) others input pos

/-- The first parser that succeeds. When none does and one of them got beyond the start, the error is
the furthest one. -/
def choice (parsers : List (Parser τ α)) : Parser τ α :=
  choiceFrom none parsers

/-- The rest of a list behind an item: as long as a separator and an item follow, takes both. A
separator without an item is left alone, but an item that breaks off after its start is an error. `done`
holds the items so far, the last one first. -/
def listTail (item : Parser τ α) (separator : Parser τ β) :
    (fuel : Nat) → (done : List α) → Parser τ (List α)
  | 0, done, _, pos => .ok (pos, done.reverse)
  | fuel + 1, done, input, pos =>
    match separator input pos with
    | .error _ => .ok (pos, done.reverse)
    | .ok (start, _) =>
      match item input start with
      -- the error of an item that had begun counts; one at its start only ends the list
      | .ok (next, value) => listTail item separator fuel (value :: done) input next
      | .error e => if start < e.position then .error e else .ok (pos, done.reverse)

/-- Items with separators between them, possibly none. Every round takes a token, since an item or a
separator has at least one, so one round more than there are tokens left is enough. -/
def separatedList (item : Parser τ α) (separator : Parser τ β) : Parser τ (List α) :=
  fun input pos =>
    match item input pos with
    | .ok (next, value) => listTail item separator (input.size - pos + 1) [value] input next
    | .error e => if pos < e.position then .error e else .ok (pos, [])

end Parser

end RuleText
