import RuleText.Grammar.Parser

/-!
# Where parsers stop

A parser looks at the input from its place on, and what it answers lies there too: the place behind what it
took is neither in front of its start nor behind the end of the input, and an error lies between these places
as well (`Bounded`). A parser may even be started behind the end. Then there is nothing to take and every
error is at the start; in `max pos size` both cases are one.

Faults about tokens say more than a place. A token that was not expected is one of the input, and the end of
the input is missed only where none of it is left. A choice and a list compare the positions of errors before
they hand one on, but they hand it on as it is.

All of this has to be shown at once, since each part rests on the others: a parser behind another one starts
in the bounds of that one's answer, and it is these bounds which put its error behind the start of the whole.

Main definitions:

- `ParseError.InBounds`, `Parser.InBounds`: errors and answers between a start and the end of an input;
- `Parser.Bounded`: parsers whose answers are;
- `Parser.TakesTokens`, `Parser.CanBeEmpty`: what the bounds say about the tokens that a parser takes.

Main statements:

- `Bounded.satisfy`, `Bounded.andThen`, `Bounded.choice`, `Bounded.separatedList` and so on: one lemma for
  each combinator;
- `TakesTokens.round`: a separator and an item that are not both empty take a token.
-/

namespace RuleText

/-- An error that lies between the place where a parser was started and the end of an input of some size. A
token that was not expected is in the input, and an end that was not expected is behind it. -/
structure ParseError.InBounds (size pos : Nat) (e : ParseError) : Prop where
  le_position : pos ≤ e.position
  position_le : e.position ≤ max pos size
  unexpected (expected found : String) : e.fault = .unexpected expected found → e.position < size
  endOfInput (expected : String) : e.fault = .endOfInput expected → size ≤ e.position

namespace ParseError.InBounds

variable {size pos behind : Nat} {e : ParseError}

/-- An error in the bounds of a parser that was started further on. -/
theorem of_behind (h : e.InBounds size behind) (hle : pos ≤ behind) (hbehind : behind ≤ max pos size) :
    e.InBounds size pos := by
  have hlow := h.le_position
  have hhigh := h.position_le
  -- what is said about tokens does not mention the start
  exact ⟨by omega, by omega, h.unexpected, h.endOfInput⟩

/-- A context is no matter of the place. -/
theorem within (h : e.InBounds size pos) (construct : String) : (e.within construct).InBounds size pos :=
  ⟨h.le_position, h.position_le, h.unexpected, h.endOfInput⟩

/-- A fault that is about no token may lie at the start. -/
theorem noAlternative (size pos : Nat) :
    ({ fault := .noAlternative, position := pos } : ParseError).InBounds size pos := by
  refine ⟨Nat.le_refl pos, Nat.le_max_left pos size, ?_, ?_⟩
  · intro expected found hfault
    cases hfault
  · intro expected hfault
    cases hfault

end ParseError.InBounds

namespace Parser

variable {τ α β γ : Type}

/-- An answer that lies between the place where a parser was started and the end of an input of some size. -/
inductive InBounds (size pos : Nat) : Except ParseError (Nat × α) → Prop where
  | ok {next : Nat} {value : α} (hle : pos ≤ next) (hnext : next ≤ max pos size) :
      InBounds size pos (.ok (next, value))
  | error {e : ParseError} (h : e.InBounds size pos) : InBounds size pos (.error e)

/-- An answer in the bounds of a parser that was started further on. -/
theorem InBounds.of_behind {size pos behind : Nat} {answer : Except ParseError (Nat × α)}
    (h : InBounds size behind answer) (hle : pos ≤ behind) (hbehind : behind ≤ max pos size) :
    InBounds size pos answer := by
  cases h with
  | ok hbehind' hnext => exact .ok (by omega) (by omega)
  | error he => exact .error (he.of_behind hle hbehind)

/-- An answer that takes nothing. -/
theorem InBounds.nothing (size pos : Nat) (value : α) : InBounds size pos (.ok (pos, value)) :=
  .ok (Nat.le_refl pos) (Nat.le_max_left pos size)

/-- A parser whose answers and errors lie between its start and the end of the input. -/
def Bounded (p : Parser τ α) : Prop :=
  ∀ (input : Array τ) (pos : Nat), InBounds input.size pos (p input pos)

namespace Bounded

variable {p : Parser τ α} {q : Parser τ β} {r : Parser τ γ}

/-- The place behind what was taken. -/
theorem next {input : Array τ} {pos next : Nat} {value : α} (hp : p.Bounded)
    (h : p input pos = .ok (next, value)) : pos ≤ next ∧ next ≤ max pos input.size := by
  have hanswer := hp input pos
  rw [h] at hanswer
  cases hanswer with
  | ok hle hnext => exact ⟨hle, hnext⟩

/-! ### One token -/

/-- A token that is taken, or that is not the expected one, is a token of the input. -/
theorem satisfy [Describe τ] (expected : String) (f : τ → Option α) :
    (Parser.satisfy expected f).Bounded := by
  intro input pos
  unfold Parser.satisfy
  cases htoken : input[pos]? with
  | none =>
    have hend : input.size ≤ pos := Array.getElem?_eq_none_iff.mp htoken
    refine .error ⟨Nat.le_refl pos, Nat.le_max_left _ _, ?_, ?_⟩
    · intro expected' found hfault
      cases hfault
    · intro expected' _
      exact hend
  | some token =>
    obtain ⟨hpos, -⟩ := Array.getElem?_eq_some_iff.mp htoken
    simp only
    cases f token with
    | some value => exact .ok (Nat.le_succ pos) (by omega)
    | none =>
      refine .error ⟨Nat.le_refl pos, Nat.le_max_left _ _, ?_, ?_⟩
      · intro expected' found _
        exact hpos
      · intro expected' hfault
        cases hfault

theorem equal [DecidableEq τ] [Describe τ] (token : τ) : (Parser.equal token).Bounded :=
  satisfy _ _

/-! ### Values, contexts and sequences -/

theorem map (hp : p.Bounded) (f : α → β) : (p.map f).Bounded := by
  intro input pos
  have hanswer := hp input pos
  unfold Parser.map
  generalize p input pos = answer at hanswer ⊢
  cases hanswer with
  | ok hle hnext => exact .ok hle hnext
  | error he => exact .error he

theorem unit (hp : p.Bounded) : p.unit.Bounded :=
  hp.map _

theorem inContext (hp : p.Bounded) (construct : String) : (p.inContext construct).Bounded := by
  intro input pos
  have hanswer := hp input pos
  unfold Parser.inContext
  generalize p input pos = answer at hanswer ⊢
  cases hanswer with
  | ok hle hnext => exact .ok hle hnext
  | error he => exact .error (he.within construct)

/-- The second parser starts in the bounds of the first one. -/
theorem andThen {q : α → Parser τ β} (hp : p.Bounded) (hq : ∀ value, (q value).Bounded) :
    (p.andThen q).Bounded := by
  intro input pos
  have hfirst := hp input pos
  unfold Parser.andThen
  generalize p input pos = answer at hfirst ⊢
  cases hfirst with
  | @ok behind value hle hbehind => exact (hq value input behind).of_behind hle hbehind
  | error he => exact .error he

theorem pair (hp : p.Bounded) (hq : q.Bounded) : (p.pair q).Bounded :=
  hp.andThen fun _ => hq.map _

theorem triple (hp : p.Bounded) (hq : q.Bounded) (hr : r.Bounded) : (p.triple q r).Bounded :=
  hp.andThen fun _ => hq.andThen fun _ => hr.map _

theorem preceded (hp : p.Bounded) (hq : q.Bounded) : (p.preceded q).Bounded :=
  hp.andThen fun _ => hq

theorem delimited (hp : p.Bounded) (hq : q.Bounded) (hr : r.Bounded) : (p.delimited q r).Bounded :=
  hp.andThen fun _ => hq.andThen fun _ => hr.map _

/-! ### Choice -/

/-- The furthest of two errors is one of them. -/
theorem furthest {size pos : Nat} {failed : Option ParseError} {e : ParseError}
    (hfailed : ∀ first ∈ failed, first.InBounds size pos) (he : e.InBounds size pos) :
    (Parser.furthest failed e).InBounds size pos := by
  cases failed with
  | none => exact he
  | some first =>
    simp only [Parser.furthest]
    split
    · exact he
    · exact hfailed first rfl

/-- The error of a choice is that of one of the parsers, or one of its own at the start. -/
theorem choiceFrom {parsers : List (Parser τ α)} (h : ∀ p ∈ parsers, p.Bounded)
    {failed : Option ParseError} {input : Array τ} {pos : Nat}
    (hfailed : ∀ first ∈ failed, first.InBounds input.size pos) :
    InBounds input.size pos (Parser.choiceFrom failed parsers input pos) := by
  induction parsers generalizing failed with
  | nil =>
    -- an error that was kept is handed on if a parser had begun, and otherwise the choice has its own
    cases failed with
    | none => exact .error (.noAlternative _ _)
    | some first =>
      simp only [Parser.choiceFrom]
      split
      · exact .error (hfailed first rfl)
      · exact .error (.noAlternative _ _)
  | cons p others ih =>
    obtain ⟨hp, hothers⟩ := List.forall_mem_cons.mp h
    have hanswer := hp input pos
    unfold Parser.choiceFrom
    generalize p input pos = answer at hanswer ⊢
    cases hanswer with
    | ok hle hnext => exact .ok hle hnext
    | error he =>
      -- the error is kept if it lies further on than those before it
      refine ih hothers ?_
      intro first hfirst
      obtain rfl := Option.some.inj hfirst
      exact furthest hfailed he

theorem choice {parsers : List (Parser τ α)} (h : ∀ p ∈ parsers, p.Bounded) :
    (Parser.choice parsers).Bounded := by
  intro input pos
  refine choiceFrom h ?_
  intro first hfirst
  cases hfirst

/-! ### Lists -/

/-- A round begins in the bounds of the one before it. A list that stops gives up the last separator, and so
takes nothing more. -/
theorem listTail (hitem : p.Bounded) (hseparator : q.Bounded) (fuel : Nat) (done : List α) :
    (Parser.listTail p q fuel done).Bounded := by
  intro input pos
  induction fuel generalizing done pos with
  | zero => exact .nothing _ _ _
  | succ fuel ih =>
    have hmark := hseparator input pos
    unfold Parser.listTail
    generalize q input pos = answer at hmark ⊢
    cases hmark with
    | error he => exact .nothing _ _ _
    | @ok start mark hle hstart =>
      have hvalue := hitem input start
      simp only
      generalize p input start = answer at hvalue ⊢
      cases hvalue with
      | @ok next value hle' hnext =>
        exact (ih (value :: done) next).of_behind (by omega) (by omega)
      | error he =>
        -- the item is tried behind a separator, so its error lies behind the start as well
        simp only
        split
        · exact .error (he.of_behind hle hstart)
        · exact .nothing _ _ _

theorem separatedList (hitem : p.Bounded) (hseparator : q.Bounded) :
    (Parser.separatedList p q).Bounded := by
  intro input pos
  have hfirst := hitem input pos
  unfold Parser.separatedList
  generalize p input pos = answer at hfirst ⊢
  cases hfirst with
  | @ok next value hle hnext =>
    exact (hitem.listTail hseparator _ [value] input next).of_behind hle hnext
  | error he =>
    simp only
    split
    · exact .error he
    · exact .nothing _ _ _

end Bounded

/-! ### Taking tokens -/

/-- What a parser takes are tokens of the input: the place behind them is not in front of its start, nor
behind the end of the input. -/
def TakesTokens (p : Parser τ α) (input : Array τ) : Prop :=
  ∀ pos next value, p input pos = .ok (next, value) → pos ≤ next ∧ next ≤ max pos input.size

/-- A parser that succeeds at some place without taking a token. -/
def CanBeEmpty (p : Parser τ α) (input : Array τ) : Prop :=
  ∃ pos value, p input pos = .ok (pos, value)

theorem Bounded.takesTokens {p : Parser τ α} (h : p.Bounded) (input : Array τ) : p.TakesTokens input := by
  intro pos next value hvalue
  exact h.next hvalue

/-- A parser that cannot be empty takes at least one token. -/
theorem TakesTokens.lt {p : Parser τ α} {input : Array τ} (h : p.TakesTokens input)
    (hempty : ¬ p.CanBeEmpty input) {pos next : Nat} {value : α}
    (hvalue : p input pos = .ok (next, value)) : pos < next := by
  obtain ⟨hle, -⟩ := h pos next value hvalue
  refine Nat.lt_of_le_of_ne hle ?_
  rintro rfl
  exact hempty ⟨pos, value, hvalue⟩

/-- If not both an item and a separator can be empty, a round of their list takes a token of the input. -/
theorem TakesTokens.round {item : Parser τ α} {separator : Parser τ β} {input : Array τ}
    (hitem : item.TakesTokens input) (hseparator : separator.TakesTokens input)
    (hempty : ¬ (item.CanBeEmpty input ∧ separator.CanBeEmpty input)) {pos start next : Nat} {mark : β}
    {value : α} (hmark : separator input pos = .ok (start, mark))
    (hvalue : item input start = .ok (next, value)) : pos < next ∧ next ≤ input.size := by
  obtain ⟨hstart, hstart'⟩ := hseparator pos start mark hmark
  obtain ⟨hnext, hnext'⟩ := hitem start next value hvalue
  -- one of the two took a token, and the other has not gone back
  have htakes : pos < start ∨ start < next := by
    by_cases hitem' : item.CanBeEmpty input
    · have hseparator' : ¬ separator.CanBeEmpty input := fun h => hempty ⟨hitem', h⟩
      exact Or.inl (hseparator.lt hseparator' hmark)
    · exact Or.inr (hitem.lt hitem' hvalue)
  omega

end Parser

end RuleText
