import RuleText.Grammar.Parser

/-!
# Parsers do not look back

What a parser answers at a place depends on the input from that place on. So a parser that is given more
input in front, and is started as much further on, gives the same answer with every position moved by as much
(`Movable`). Parsers of one token look at the token at their place, and the combinators hand places on
without looking at them, except that they compare the positions of errors with each other and with the place
where a parser was started. Comparisons come out the same when both sides are moved.

A list takes at most as many rounds as there are tokens left, which is the same number in both inputs.

Main definitions:

- `ParseError.moved`, `Parser.moved`: errors and answers further on;
- `Parser.Movable`: parsers that do not look back.

Main statements:

- `Movable.satisfy`, `Movable.map`, `Movable.andThen` and so on: one lemma for each combinator;
- `Movable.choice`, `Movable.separatedList`: where positions are compared.
-/

namespace RuleText

/-- The same error, so many places further on. -/
def ParseError.moved (distance : Nat) (e : ParseError) : ParseError :=
  { e with position := distance + e.position }

/-- Two places in front of each other stay so when both are moved. -/
theorem ParseError.lt_position_moved_iff (distance place : Nat) (e : ParseError) :
    distance + place < (e.moved distance).position ↔ place < e.position :=
  Nat.add_lt_add_iff_left

namespace Parser

variable {τ α β γ : Type}

/-- The same answer, so many places further on. -/
def moved (distance : Nat) : Except ParseError (Nat × α) → Except ParseError (Nat × α)
  | .ok (next, value) => .ok (distance + next, value)
  | .error e => .error (e.moved distance)

/-- A parser that gives the same answer whatever is in front of its place. -/
def Movable (p : Parser τ α) : Prop :=
  ∀ (front input : Array τ) (pos : Nat),
    p (front ++ input) (front.size + pos) = moved front.size (p input pos)

namespace Movable

variable {p : Parser τ α} {q : Parser τ β} {r : Parser τ γ}

/-! ### One token -/

theorem satisfy [Describe τ] (expected : String) (f : τ → Option α) :
    (Parser.satisfy expected f).Movable := by
  intro front input pos
  -- the same token is at the place, or none
  have hsame : (front ++ input)[front.size + pos]? = input[pos]? := by
    rw [Array.getElem?_append_right (Nat.le_add_right _ _), Nat.add_sub_cancel_left]
  unfold Parser.satisfy
  rw [hsame]
  cases input[pos]? with
  | none => rfl
  | some token =>
    simp only
    cases f token with
    | none => rfl
    | some value => rfl

theorem equal [DecidableEq τ] [Describe τ] (token : τ) : (Parser.equal token).Movable :=
  satisfy _ _

/-! ### Values, contexts and sequences -/

theorem map (hp : p.Movable) (f : α → β) : (p.map f).Movable := by
  intro front input pos
  unfold Parser.map
  rw [hp]
  rcases p input pos with e | ⟨next, value⟩
  · rfl
  · rfl

theorem unit (hp : p.Movable) : p.unit.Movable :=
  hp.map _

theorem inContext (hp : p.Movable) (construct : String) : (p.inContext construct).Movable := by
  intro front input pos
  unfold Parser.inContext
  rw [hp]
  rcases p input pos with e | ⟨next, value⟩
  · rfl
  · rfl

/-- The second parser starts where the first one ends, in both inputs. -/
theorem andThen {q : α → Parser τ β} (hp : p.Movable) (hq : ∀ value, (q value).Movable) :
    (p.andThen q).Movable := by
  intro front input pos
  unfold Parser.andThen
  rw [hp]
  rcases p input pos with e | ⟨behind, value⟩
  · rfl
  · exact hq value front input behind

theorem pair (hp : p.Movable) (hq : q.Movable) : (p.pair q).Movable :=
  hp.andThen fun _ => hq.map _

theorem triple (hp : p.Movable) (hq : q.Movable) (hr : r.Movable) : (p.triple q r).Movable :=
  hp.andThen fun _ => hq.andThen fun _ => hr.map _

theorem preceded (hp : p.Movable) (hq : q.Movable) : (p.preceded q).Movable :=
  hp.andThen fun _ => hq

theorem delimited (hp : p.Movable) (hq : q.Movable) (hr : r.Movable) : (p.delimited q r).Movable :=
  hp.andThen fun _ => hq.andThen fun _ => hr.map _

/-! ### Choice -/

theorem furthest_moved (distance : Nat) (failed : Option ParseError) (e : ParseError) :
    furthest (failed.map (·.moved distance)) (e.moved distance) = (furthest failed e).moved distance := by
  cases failed with
  | none => rfl
  | some first =>
    -- both errors are moved, so the same one lies further on
    have hlt : (first.moved distance).position < (e.moved distance).position ↔ first.position < e.position :=
      e.lt_position_moved_iff distance first.position
    simp only [Option.map_some, furthest, hlt]
    split
    · rfl
    · rfl

/-- The errors of the parsers that have failed are moved as well. -/
theorem choiceFrom {parsers : List (Parser τ α)} (h : ∀ p ∈ parsers, p.Movable)
    (failed : Option ParseError) (front input : Array τ) (pos : Nat) :
    Parser.choiceFrom (failed.map (·.moved front.size)) parsers (front ++ input) (front.size + pos) =
      moved front.size (Parser.choiceFrom failed parsers input pos) := by
  induction parsers generalizing failed with
  | nil =>
    cases failed with
    | none => rfl
    | some e =>
      -- all have failed, and it is asked whether one of them got beyond the start
      simp only [Option.map_some, Parser.choiceFrom, ParseError.lt_position_moved_iff]
      split
      · rfl
      · rfl
  | cons p others ih =>
    obtain ⟨hp, hothers⟩ := List.forall_mem_cons.mp h
    unfold Parser.choiceFrom
    rw [hp]
    rcases p input pos with e | ⟨next, value⟩
    · -- the next one is tried, with the error that lies furthest on so far
      have hfailed := ih hothers (some (furthest failed e))
      rw [Option.map_some, ← furthest_moved] at hfailed
      exact hfailed
    · rfl

theorem choice {parsers : List (Parser τ α)} (h : ∀ p ∈ parsers, p.Movable) :
    (Parser.choice parsers).Movable :=
  fun front input pos => choiceFrom h none front input pos

/-! ### Lists -/

theorem listTail (hitem : p.Movable) (hseparator : q.Movable) (fuel : Nat) (done : List α) :
    (Parser.listTail p q fuel done).Movable := by
  intro front input pos
  induction fuel generalizing done pos with
  | zero => rfl
  | succ fuel ih =>
    unfold Parser.listTail
    rw [hseparator]
    rcases q input pos with e | ⟨start, mark⟩
    · rfl
    · simp only [moved]
      rw [hitem]
      rcases p input start with e | ⟨next, value⟩
      · -- whether the item had begun is a matter of the distance between two places
        simp only [moved, ParseError.lt_position_moved_iff]
        split
        · rfl
        · rfl
      · exact ih (value :: done) next

theorem separatedList (hitem : p.Movable) (hseparator : q.Movable) :
    (Parser.separatedList p q).Movable := by
  intro front input pos
  have hrounds : (front ++ input).size - (front.size + pos) + 1 = input.size - pos + 1 := by
    rw [Array.size_append]
    omega
  unfold Parser.separatedList
  rw [hitem, hrounds]
  rcases p input pos with e | ⟨next, value⟩
  · simp only [moved, ParseError.lt_position_moved_iff]
    split
    · rfl
    · rfl
  · exact hitem.listTail hseparator _ [value] front input next

end Movable

end Parser

end RuleText
