import RuleText.Grammar.Parser

/-!
# When parsers succeed

One law for each combinator: with which answers it succeeds, in terms of the answers of its parts. Errors
are left out here, with one exception. A list goes on as long as a separator and an item follow one
another, and it ends where this is not so, unless the item had already begun; there the error of the item
decides, by its position.

Main statements:

- `satisfy_eq_ok_iff`, `equal_eq_ok_iff`, `map_eq_ok_iff`, `inContext_eq_ok_iff`, `andThen_eq_ok_iff`: the simple combinators;
- `choiceFrom_cons_eq_ok_iff`: choices;
- `Chain`, `separatedList_eq_ok_iff`: a list is a chain of separators and items that cannot go on.
-/

namespace RuleText.Parser

variable {τ α β γ : Type}

/-! ### Sequences and choices -/

theorem satisfy_eq_ok_iff [Describe τ] (expected : String) (f : τ → Option α) (input : Array τ)
    (pos next : Nat) (value : α) :
    satisfy expected f input pos = .ok (next, value) ↔
      ∃ token, input[pos]? = some token ∧ f token = some value ∧ next = pos + 1 := by
  rw [satisfy]
  cases input[pos]? with
  | none => simp
  | some token =>
    cases hf : f token with
    | none => simp [hf]
    | some found => simp [hf, and_comm, eq_comm]

theorem equal_eq_ok_iff [DecidableEq τ] [Describe τ] (token : τ) (input : Array τ) (pos next : Nat)
    (value : τ) :
    equal token input pos = .ok (next, value) ↔
      input[pos]? = some token ∧ value = token ∧ next = pos + 1 := by
  rw [equal, satisfy_eq_ok_iff]
  refine ⟨?_, ?_⟩
  · rintro ⟨found, hfound, hvalue, hnext⟩
    split at hvalue
    · rename_i heq
      rw [heq] at hfound hvalue
      exact ⟨hfound, (Option.some.inj hvalue).symm, hnext⟩
    · cases hvalue
  · rintro ⟨hfound, rfl, hnext⟩
    exact ⟨value, hfound, if_pos rfl, hnext⟩

theorem map_eq_ok_iff (f : α → β) (p : Parser τ α) (input : Array τ) (pos next : Nat) (value : β) :
    p.map f input pos = .ok (next, value) ↔
      ∃ before, p input pos = .ok (next, before) ∧ f before = value := by
  rw [Parser.map]
  rcases p input pos with e | ⟨behind, before⟩
  · simp
  · simp only [Except.ok.injEq, Prod.mk.injEq]
    refine ⟨?_, ?_⟩
    · rintro ⟨rfl, rfl⟩
      exact ⟨before, ⟨rfl, rfl⟩, rfl⟩
    · rintro ⟨_, ⟨rfl, rfl⟩, rfl⟩
      exact ⟨rfl, rfl⟩

theorem unit_equal_eq_ok_iff [DecidableEq τ] [Describe τ] (token : τ) (input : Array τ)
    (pos next : Nat) (value : Unit) :
    unit (equal token) input pos = .ok (next, value) ↔ input[pos]? = some token ∧ next = pos + 1 := by
  rw [unit, map_eq_ok_iff]
  simp only [equal_eq_ok_iff]
  refine ⟨?_, ?_⟩
  · rintro ⟨_, ⟨hfound, -, hnext⟩, -⟩
    exact ⟨hfound, hnext⟩
  · rintro ⟨hfound, hnext⟩
    exact ⟨token, ⟨hfound, rfl, hnext⟩, trivial⟩

theorem inContext_eq_ok_iff (construct : String) (p : Parser τ α) (input : Array τ) (pos : Nat)
    (answer : Nat × α) :
    inContext construct p input pos = .ok answer ↔ p input pos = .ok answer := by
  rw [inContext]
  rcases p input pos with e | found
  · simp
  · rfl

theorem andThen_eq_ok_iff (p : Parser τ α) (q : α → Parser τ β) (input : Array τ) (pos : Nat)
    (answer : Nat × β) :
    p.andThen q input pos = .ok answer ↔
      ∃ behind value, p input pos = .ok (behind, value) ∧ q value input behind = .ok answer := by
  rw [andThen]
  rcases p input pos with e | ⟨behind, value⟩
  · simp
  · simp only [Except.ok.injEq, Prod.mk.injEq]
    refine ⟨fun h => ⟨behind, value, ⟨rfl, rfl⟩, h⟩, ?_⟩
    rintro ⟨_, _, ⟨rfl, rfl⟩, h⟩
    exact h

/-- The first parser that succeeds gives the answer; the errors before it do not matter. -/
theorem choiceFrom_cons_eq_ok_iff (failed : Option ParseError) (p : Parser τ α)
    (others : List (Parser τ α)) (input : Array τ) (pos : Nat) (answer : Nat × α) :
    choiceFrom failed (p :: others) input pos = .ok answer ↔
      p input pos = .ok answer ∨
        ∃ e, p input pos = .error e ∧
          choiceFrom (some (furthest failed e)) others input pos = .ok answer := by
  rw [choiceFrom]
  rcases p input pos with e | found
  · simp
  · simp

theorem choiceFrom_nil_ne_ok (failed : Option ParseError) (input : Array τ) (pos : Nat)
    (answer : Nat × α) : choiceFrom failed [] input pos ≠ .ok answer := by
  cases failed with
  | none => simp [choiceFrom]
  | some e =>
    simp only [choiceFrom]
    split
    · simp
    · simp

/-! ### Lists -/

/-- From one position to another by separators, each with an item behind it; with the values of the items
in order. -/
inductive Chain (item : Parser τ α) (separator : Parser τ β) (input : Array τ) :
    Nat → List α → Nat → Prop where
  | done (pos : Nat) : Chain item separator input pos [] pos
  | more {pos start next stop : Nat} {mark : β} {value : α} {others : List α} :
      separator input pos = .ok (start, mark) → item input start = .ok (next, value) →
      Chain item separator input next others stop →
      Chain item separator input pos (value :: others) stop

/-- A list ends here: no separator follows, or one without an item that would have begun behind it. -/
def ListEnds (item : Parser τ α) (separator : Parser τ β) (input : Array τ) (pos : Nat) : Prop :=
  (∃ e, separator input pos = .error e) ∨
    ∃ start mark e, separator input pos = .ok (start, mark) ∧ item input start = .error e ∧
      e.position ≤ start

variable {item : Parser τ α} {separator : Parser τ β} {input : Array τ}

/-- Where a list ends there is no round more. -/
theorem ListEnds.no_round {pos start next : Nat} {mark : β} {value : α}
    (h : ListEnds item separator input pos) (hmark : separator input pos = .ok (start, mark)) :
    item input start ≠ .ok (next, value) := by
  intro hvalue
  rcases h with ⟨e, he⟩ | ⟨start', mark', e, hmark', he, -⟩
  · rw [hmark] at he
    cases he
  · rw [hmark] at hmark'
    obtain ⟨rfl, rfl⟩ := Prod.mk.inj (Except.ok.inj hmark')
    rw [hvalue] at he
    cases he

/-- So the only chain from there is the empty one. -/
theorem ListEnds.chain_iff {pos stop : Nat} {values : List α}
    (h : ListEnds item separator input pos) :
    Chain item separator input pos values stop ↔ values = [] ∧ pos = stop := by
  refine ⟨fun hchain => ?_, ?_⟩
  · cases hchain with
    | done => exact ⟨rfl, rfl⟩
    | more hmark hvalue _ => exact absurd hvalue (h.no_round hmark)
  · rintro ⟨rfl, rfl⟩
    exact .done pos

/-- **The rest of a list.** It is the chain that cannot go on, if there is fuel for all of its rounds. -/
theorem listTail_eq_ok_iff
    (hround : ∀ pos start next mark value, separator input pos = .ok (start, mark) →
      item input start = .ok (next, value) → pos < next ∧ next ≤ input.size)
    {fuel : Nat} (done : List α) {pos : Nat} (hfuel : input.size - pos < fuel) (stop : Nat)
    (answer : List α) :
    listTail item separator fuel done input pos = .ok (stop, answer) ↔
      ∃ values, answer = done.reverse ++ values ∧ Chain item separator input pos values stop ∧
        ListEnds item separator input stop := by
  -- the induction is on the rounds, with any values read before
  induction fuel generalizing done pos with
  | zero => exact absurd hfuel (Nat.not_lt_zero _)
  | succ fuel ih =>
    -- both ways for a list to end here give the same answer
    have hdone : ListEnds item separator input pos →
        ((.ok (pos, done.reverse) : Except ParseError (Nat × List α)) = .ok (stop, answer) ↔
          ∃ values, answer = done.reverse ++ values ∧ Chain item separator input pos values stop ∧
            ListEnds item separator input stop) := by
      intro hends
      rw [Except.ok.injEq, Prod.mk.injEq]
      refine ⟨?_, ?_⟩
      · rintro ⟨rfl, rfl⟩
        exact ⟨[], (List.append_nil _).symm, .done pos, hends⟩
      · rintro ⟨values, rfl, hchain, -⟩
        obtain ⟨rfl, hstop⟩ := hends.chain_iff.mp hchain
        exact ⟨hstop, (List.append_nil _).symm⟩
    rw [listTail]
    rcases hseparator : separator input pos with e | ⟨start, mark⟩
    · exact hdone (Or.inl ⟨e, hseparator⟩)
    · simp only
      rcases hitem : item input start with e | ⟨next, value⟩
      · simp only
        split
        · -- the item had begun, so the list neither ends here nor goes on
          rename_i hbegun
          refine ⟨nofun, ?_⟩
          rintro ⟨values, -, hchain, hends⟩
          cases hchain with
          | done =>
            rcases hends with ⟨e', he'⟩ | ⟨start', mark', e', hmark, he', hle⟩
            · simp [hseparator] at he'
            · obtain ⟨rfl, rfl⟩ := by simpa [hseparator] using hmark
              obtain rfl : e = e' := by simpa [hitem] using he'
              exact absurd hbegun (Nat.not_lt_of_le hle)
          | more hmark hvalue _ =>
            obtain ⟨rfl, rfl⟩ := by simpa [hseparator] using hmark
            simp [hitem] at hvalue
        · rename_i hbegun
          exact hdone (Or.inr ⟨start, mark, e, hseparator, hitem, Nat.le_of_not_lt hbegun⟩)
      · -- one round more
        obtain ⟨hlt, hle⟩ := hround pos start next mark value hseparator hitem
        simp only
        -- the values read so far are kept in reverse, so the new one stands in front
        refine (ih (value :: done) (by omega)).trans ⟨?_, ?_⟩
        · rintro ⟨values, hanswer, hchain, hends⟩
          refine ⟨value :: values, ?_, .more hseparator hitem hchain, hends⟩
          rw [hanswer, List.reverse_cons, List.append_assoc]
          rfl
        · rintro ⟨values, hanswer, hchain, hends⟩
          cases hchain with
          | done => exact absurd hitem (hends.no_round hseparator)
          | more hmark hvalue hothers =>
            obtain ⟨rfl, rfl⟩ := by simpa [hseparator] using hmark
            obtain ⟨rfl, rfl⟩ := by simpa [hitem] using hvalue
            refine ⟨_, ?_, hothers, hends⟩
            rw [hanswer, List.reverse_cons, List.append_assoc]
            rfl

/-- **A list is a chain that cannot go on.** It may have no item, but only if the first one had not
begun. -/
theorem separatedList_eq_ok_iff
    (hround : ∀ pos start next mark value, separator input pos = .ok (start, mark) →
      item input start = .ok (next, value) → pos < next ∧ next ≤ input.size)
    (hfirst : ∀ pos next value, item input pos = .ok (next, value) → pos ≤ next) (pos stop : Nat)
    (values : List α) :
    separatedList item separator input pos = .ok (stop, values) ↔
      (values = [] ∧ stop = pos ∧ ∃ e, item input pos = .error e ∧ e.position ≤ pos) ∨
        ∃ first others next, values = first :: others ∧ item input pos = .ok (next, first) ∧
          Chain item separator input next others stop ∧ ListEnds item separator input stop := by
  rw [separatedList]
  rcases hitem : item input pos with e | ⟨next, first⟩
  · simp only
    split
    · -- the first item had begun, so its error is that of the list
      rename_i hbegun
      refine ⟨nofun, ?_⟩
      rintro (⟨-, -, e', he', hle⟩ | ⟨first, others, next, -, hfirst, -⟩)
      · obtain rfl := Except.error.inj he'
        exact absurd hbegun (Nat.not_lt_of_le hle)
      · cases hfirst
    · rename_i hbegun
      -- it had not, so there are no items, and nothing has been taken
      rw [Except.ok.injEq, Prod.mk.injEq]
      refine ⟨?_, ?_⟩
      · rintro ⟨rfl, rfl⟩
        exact Or.inl ⟨rfl, rfl, e, rfl, Nat.le_of_not_lt hbegun⟩
      · rintro (⟨rfl, rfl, -⟩ | ⟨first, others, next, -, hfirst, -⟩)
        · exact ⟨rfl, rfl⟩
        · cases hfirst
  · -- the items behind the first one are read by the loop
    have hle := hfirst pos next first hitem
    simp only
    refine (listTail_eq_ok_iff hround [first] (by omega) stop values).trans ⟨?_, ?_⟩
    · rintro ⟨others, rfl, hchain, hends⟩
      exact Or.inr ⟨first, others, next, rfl, rfl, hchain, hends⟩
    · rintro (⟨-, -, e, he, -⟩ | ⟨first', others, next', rfl, hfirst', hchain, hends⟩)
      · cases he
      · obtain ⟨rfl, rfl⟩ := Prod.mk.inj (Except.ok.inj hfirst')
        exact ⟨others, rfl, hchain, hends⟩

end RuleText.Parser
