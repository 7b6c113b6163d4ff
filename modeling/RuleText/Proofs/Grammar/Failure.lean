import RuleText.Proofs.Grammar.Reads

/-!
# When parsers fail

One law for each combinator again, now for its errors: with which errors it fails, in terms of the answers
of its parts. A sequence fails where one of its parts does; a list fails only where an item breaks off
that had begun, since one that does not even begin is taken for the end of the list.

Main definitions:

- `missing`: the fault of not finding what was expected;
- `ListBreaks`: a list goes on to an item that breaks off.

Main statements:

- `satisfy_eq_error_iff`, `map_eq_error_iff`, `inContext_eq_error_iff`, `andThen_eq_error_iff`: the simple combinators;
- `choice_pair_left`, `choice_pair_right`, `choice_pair_neither`: a choice of two, of which at most one begins;
- `separatedList_eq_error_iff`: the error of a list is that of an item which had begun.
-/

namespace RuleText

/-- What is wrong where something was expected: the input ends there, or another token stands there. -/
def missing {τ : Type} [Describe τ] (expected : String) : Option τ → Fault
  | none => .endOfInput expected
  | some token => .unexpected expected (describe token)

namespace Parser

variable {τ α β : Type}

/-! ### Errors of sequences and choices -/

theorem satisfy_eq_error_iff [Describe τ] (expected : String) (f : τ → Option α) (input : Array τ)
    (pos : Nat) (e : ParseError) :
    satisfy expected f input pos = .error e ↔
      (∀ token, input[pos]? = some token → f token = none) ∧
        e = { fault := missing expected input[pos]?, position := pos } := by
  rw [satisfy]
  cases input[pos]? with
  | none => simp [missing, eq_comm]
  | some token =>
    cases hf : f token with
    | none => simp [missing, hf, eq_comm]
    | some value => simp [hf]

theorem map_eq_error_iff (f : α → β) (p : Parser τ α) (input : Array τ) (pos : Nat)
    (e : ParseError) : p.map f input pos = .error e ↔ p input pos = .error e := by
  rw [Parser.map]
  rcases p input pos with failed | found
  · simp
  · simp

theorem equal_eq_error_iff [DecidableEq τ] [Describe τ] (token : τ) (input : Array τ) (pos : Nat)
    (e : ParseError) :
    equal token input pos = .error e ↔
      input[pos]? ≠ some token ∧
        e = { fault := missing (describe token) input[pos]?, position := pos } := by
  rw [equal, satisfy_eq_error_iff]
  refine and_congr_left fun _ => ?_
  refine ⟨fun h hat => ?_, fun h other hother => ?_⟩
  · have hnone := h token hat
    rw [if_pos rfl] at hnone
    cases hnone
  · refine if_neg fun heq => ?_
    rw [heq] at hother
    exact h hother

theorem unit_equal_eq_error_iff [DecidableEq τ] [Describe τ] (token : τ) (input : Array τ)
    (pos : Nat) (e : ParseError) :
    unit (equal token) input pos = .error e ↔
      input[pos]? ≠ some token ∧
        e = { fault := missing (describe token) input[pos]?, position := pos } := by
  rw [unit, map_eq_error_iff, equal_eq_error_iff]

theorem inContext_eq_error_iff (construct : String) (p : Parser τ α) (input : Array τ) (pos : Nat)
    (e : ParseError) :
    inContext construct p input pos = .error e ↔
      ∃ inner, p input pos = .error inner ∧ e = inner.within construct := by
  rw [inContext]
  rcases p input pos with failed | found
  · simp [eq_comm]
  · simp

theorem andThen_eq_error_iff (p : Parser τ α) (q : α → Parser τ β) (input : Array τ) (pos : Nat)
    (e : ParseError) :
    p.andThen q input pos = .error e ↔
      p input pos = .error e ∨
        ∃ behind value, p input pos = .ok (behind, value) ∧ q value input behind = .error e := by
  rw [andThen]
  rcases p input pos with failed | ⟨behind, value⟩
  · simp
  · simp only [reduceCtorEq, false_or, Except.ok.injEq, Prod.mk.injEq]
    refine ⟨fun h => ⟨behind, value, ⟨rfl, rfl⟩, h⟩, ?_⟩
    rintro ⟨_, _, ⟨rfl, rfl⟩, h⟩
    exact h

/-- If both of two parsers fail, and at least one of them beyond the start, the furthest error counts. -/
theorem choice_pair_eq_error_iff (p q : Parser τ α) (input : Array τ) (pos : Nat) (e : ParseError) :
    choice [p, q] input pos = .error e ↔
      ∃ first second, p input pos = .error first ∧ q input pos = .error second ∧
        e = if pos < (furthest (some first) second).position then furthest (some first) second
          else { fault := .noAlternative, position := pos } := by
  rw [choice, choiceFrom]
  rcases p input pos with first | found
  · have hfirst : furthest none first = first := rfl
    simp only [choiceFrom, hfirst]
    rcases q input pos with second | found
    · simp only [Except.error.injEq, exists_and_left, exists_eq_left']
      by_cases hbeyond : pos < (furthest (some first) second).position
      · simp [hbeyond, eq_comm]
      · simp [hbeyond, eq_comm]
    · simp
  · simp

/-- If the second parser fails without beginning, the error is that of the first one. -/
theorem choice_pair_left {p q : Parser τ α} {input : Array τ} {pos : Nat} {second : ParseError}
    (hsecond : q input pos = .error second) (hle : second.position ≤ pos)
    (hbegun : ∀ e, p input pos = .error e → pos < e.position) (e : ParseError) :
    choice [p, q] input pos = .error e ↔ p input pos = .error e := by
  have hfurthest : ∀ first, p input pos = .error first →
      furthest (some first) second = first ∧ pos < first.position := by
    intro first hfirst
    have hlt := hbegun first hfirst
    exact ⟨if_neg (by omega), hlt⟩
  rw [choice_pair_eq_error_iff]
  refine ⟨?_, fun hfirst => ⟨e, second, hfirst, hsecond, ?_⟩⟩
  · rintro ⟨first, second', hfirst, hsecond', rfl⟩
    obtain rfl := Except.error.inj (hsecond.symm.trans hsecond')
    obtain ⟨hsame, hlt⟩ := hfurthest first hfirst
    rw [hsame, if_pos hlt]
    exact hfirst
  · obtain ⟨hsame, hlt⟩ := hfurthest e hfirst
    rw [hsame, if_pos hlt]

/-- If the first parser fails without beginning, the error is that of the second one. -/
theorem choice_pair_right {p q : Parser τ α} {input : Array τ} {pos : Nat} {first : ParseError}
    (hfirst : p input pos = .error first) (hle : first.position ≤ pos)
    (hbegun : ∀ e, q input pos = .error e → pos < e.position) (e : ParseError) :
    choice [p, q] input pos = .error e ↔ q input pos = .error e := by
  have hfurthest : ∀ second, q input pos = .error second →
      furthest (some first) second = second ∧ pos < second.position := by
    intro second hsecond
    have hlt := hbegun second hsecond
    exact ⟨if_pos (by omega), hlt⟩
  rw [choice_pair_eq_error_iff]
  refine ⟨?_, fun hsecond => ⟨first, e, hfirst, hsecond, ?_⟩⟩
  · rintro ⟨first', second, hfirst', hsecond, rfl⟩
    obtain rfl := Except.error.inj (hfirst.symm.trans hfirst')
    obtain ⟨hsame, hlt⟩ := hfurthest second hsecond
    rw [hsame, if_pos hlt]
    exact hsecond
  · obtain ⟨hsame, hlt⟩ := hfurthest e hsecond
    rw [hsame, if_pos hlt]

/-- If neither of the parsers begins, no alternative is left. -/
theorem choice_pair_neither {p q : Parser τ α} {input : Array τ} {pos : Nat} {first second : ParseError}
    (hfirst : p input pos = .error first) (hle : first.position ≤ pos)
    (hsecond : q input pos = .error second) (hle' : second.position ≤ pos) :
    choice [p, q] input pos = .error { fault := .noAlternative, position := pos } := by
  have hfurthest : ¬ pos < (furthest (some first) second).position := by
    rw [furthest]
    split <;> omega
  exact (choice_pair_eq_error_iff p q input pos _).mpr
    ⟨first, second, hfirst, hsecond, (if_neg hfurthest).symm⟩

/-! ### Errors of lists -/

variable {item : Parser τ α} {separator : Parser τ β} {input : Array τ}

/-- A list breaks off here: it goes on to a separator behind which an item had begun. -/
def ListBreaks (item : Parser τ α) (separator : Parser τ β) (input : Array τ) (pos : Nat)
    (e : ParseError) : Prop :=
  ∃ values stop start mark, Chain item separator input pos values stop ∧
    separator input stop = .ok (start, mark) ∧ item input start = .error e ∧ start < e.position

/-- A list that ends here does not break off. -/
theorem ListEnds.not_breaks {pos : Nat} (h : ListEnds item separator input pos) (e : ParseError) :
    ¬ ListBreaks item separator input pos e := by
  rintro ⟨values, stop, start, mark, hchain, hmark, hitem, hbegun⟩
  obtain ⟨-, rfl⟩ := h.chain_iff.mp hchain
  rcases h with ⟨e', he'⟩ | ⟨start', mark', e', hmark', he', hle⟩
  · rw [hmark] at he'
    cases he'
  · rw [hmark] at hmark'
    obtain ⟨rfl, -⟩ := Prod.mk.inj (Except.ok.inj hmark')
    rw [hitem] at he'
    obtain rfl := Except.error.inj he'
    exact absurd hbegun (Nat.not_lt_of_le hle)

/-- One round more, or the item right behind the next separator is the one that broke off. -/
theorem listBreaks_iff {pos start : Nat} {mark : β} (hmark : separator input pos = .ok (start, mark))
    (e : ParseError) :
    ListBreaks item separator input pos e ↔
      (item input start = .error e ∧ start < e.position) ∨
        ∃ next value, item input start = .ok (next, value) ∧ ListBreaks item separator input next e := by
  refine ⟨?_, ?_⟩
  · rintro ⟨values, stop, start', mark', hchain, hmark', hitem, hbegun⟩
    cases hchain with
    | done =>
      rw [hmark] at hmark'
      obtain ⟨rfl, -⟩ := Prod.mk.inj (Except.ok.inj hmark')
      exact Or.inl ⟨hitem, hbegun⟩
    | more hmark'' hvalue hothers =>
      rw [hmark] at hmark''
      obtain ⟨rfl, -⟩ := Prod.mk.inj (Except.ok.inj hmark'')
      exact Or.inr ⟨_, _, hvalue, _, _, _, _, hothers, hmark', hitem, hbegun⟩
  · rintro (⟨hitem, hbegun⟩ | ⟨next, value, hvalue, values, stop, start', mark', hchain, hrest⟩)
    · exact ⟨[], pos, start, mark, .done pos, hmark, hitem, hbegun⟩
    · exact ⟨value :: values, stop, start', mark', .more hmark hvalue hchain, hrest⟩

/-- **The rest of a list.** With fuel for all rounds it fails exactly where a round breaks off. -/
theorem listTail_eq_error_iff
    (hround : ∀ pos start next mark value, separator input pos = .ok (start, mark) →
      item input start = .ok (next, value) → pos < next ∧ next ≤ input.size)
    {fuel : Nat} (done : List α) {pos : Nat} (hfuel : input.size - pos < fuel) (e : ParseError) :
    listTail item separator fuel done input pos = .error e ↔
      ListBreaks item separator input pos e := by
  -- the induction is on the rounds; what has been read before does not matter to an error
  induction fuel generalizing done pos with
  | zero => exact absurd hfuel (Nat.not_lt_zero _)
  | succ fuel ih =>
    -- where the list ends it has an answer, and no round breaks off
    have hdone : ListEnds item separator input pos →
        ((.ok (pos, done.reverse) : Except ParseError (Nat × List α)) = .error e ↔
          ListBreaks item separator input pos e) := by
      intro hends
      exact ⟨nofun, fun h => absurd h (hends.not_breaks e)⟩
    rw [listTail]
    rcases hseparator : separator input pos with failed | ⟨start, mark⟩
    · exact hdone (Or.inl ⟨failed, hseparator⟩)
    · simp only
      rcases hitem : item input start with failed | ⟨next, value⟩
      · simp only
        split
        · -- the item had begun, and this round is the one that breaks off
          rename_i hbegun
          rw [listBreaks_iff hseparator, hitem]
          simp only [Except.error.injEq, reduceCtorEq, false_and, exists_false, or_false]
          refine ⟨?_, And.left⟩
          rintro rfl
          exact ⟨rfl, hbegun⟩
        · rename_i hbegun
          exact hdone (Or.inr ⟨start, mark, failed, hseparator, hitem, Nat.le_of_not_lt hbegun⟩)
      · -- the round takes something, so there are rounds enough for what is left
        obtain ⟨hlt, hle⟩ := hround pos start next mark value hseparator hitem
        simp only
        rw [ih (value :: done) (by omega), listBreaks_iff hseparator, hitem]
        simp

/-- **The error of a list is that of an item which had begun**: of the first item, or of one behind a
separator that the list goes on to. -/
theorem separatedList_eq_error_iff
    (hround : ∀ pos start next mark value, separator input pos = .ok (start, mark) →
      item input start = .ok (next, value) → pos < next ∧ next ≤ input.size)
    (hfirst : ∀ pos next value, item input pos = .ok (next, value) → pos ≤ next) (pos : Nat)
    (e : ParseError) :
    separatedList item separator input pos = .error e ↔
      (item input pos = .error e ∧ pos < e.position) ∨
        ∃ next first, item input pos = .ok (next, first) ∧ ListBreaks item separator input next e := by
  rw [separatedList]
  rcases hitem : item input pos with failed | ⟨next, first⟩
  · simp only [Except.error.injEq, reduceCtorEq, false_and, exists_false, or_false]
    split
    · rename_i hbegun
      rw [Except.error.injEq]
      refine ⟨?_, And.left⟩
      rintro rfl
      exact ⟨rfl, hbegun⟩
    · rename_i hbegun
      refine ⟨fun hok => ?_, ?_⟩
      · cases hok
      · rintro ⟨rfl, hlt⟩
        exact absurd hlt hbegun
  · have hle := hfirst pos next first hitem
    simp only
    rw [listTail_eq_error_iff hround [first] (by omega)]
    simp

end Parser

end RuleText
