import Mathlib.Data.List.OfFn
import RuleText.Proofs.Grammar.Bounds
import RuleText.Proofs.Grammar.Parser
import RuleText.Proofs.Grammar.Shift

/-!
# Combinations of parsers

What holds of every grammar, whatever it is a grammar of: a parser that is put together from parsers of one
token by the combinators, in any nesting (`Combination`), comes to an end at every place of every input, its
answer lies between that place and the end of the input, and it depends on the input from the place on.

The first of these is the delicate one, since the loop of a list has no bound of its own. The parser of a list
is given as many rounds as there are tokens left and one more, and if these were too few it would stop
silently. So its answers are compared with rules that count nothing (`Outcomes`): an answer is an outcome if a
finite derivation leads to it, and a loop that goes on forever has none. A list whose items and separators may
both be empty can have no outcome at all, which is why one of the two has to take a token whenever it
succeeds (`Combination.Productive`). The other may be empty, and parts of a combination that are no lists need
not take anything.

If a round takes a token, the rounds of the parser are enough: one begins further on than the one before it,
and by the bounds of Proofs.Grammar.Bounds none begins behind the end of the input.

Main definitions:

- `Combination`, `Combination.parser`: combinations, and the parser of each;
- `Outcomes`, `Combination.outcomes`: the answers that parsing comes to;
- `Combination.Consumes`, `Combination.Productive`: combinations whose lists take tokens.

Main statements:

- `Outcomes.listTail_iff`, `Outcomes.separatedList_graph`: the loop of a list comes to the answer of its
  parser;
- `Combination.outcomes_eq`: so does every productive combination;
- `Combination.bounded`, `Combination.movable`: where the answers lie, and what they depend on;
- `Combination.parser_disciplined`: all of this.
-/

namespace RuleText.Parser

variable {τ α β γ : Type}

/-! ### Outcomes -/

/-- The answers that parsing comes to at each place of an input. -/
abbrev Outcomes (α : Type) := Nat → Except ParseError (Nat × α) → Prop

/-- The answers of a parser, of which there is one at each place. -/
def graph (p : Parser τ α) (input : Array τ) : Outcomes α :=
  fun pos answer => p input pos = answer

namespace Outcomes

/-- Changing the value of an answer. -/
inductive Map (f : α → β) (P : Outcomes α) : Outcomes β where
  | ok {pos next : Nat} {value : α} : P pos (.ok (next, value)) → Map f P pos (.ok (next, f value))
  | error {pos : Nat} {e : ParseError} : P pos (.error e) → Map f P pos (.error e)

/-- Naming a construct in an error. -/
inductive InContext (construct : String) (P : Outcomes α) : Outcomes α where
  | ok {pos : Nat} {answer : Nat × α} : P pos (.ok answer) → InContext construct P pos (.ok answer)
  | error {pos : Nat} {e : ParseError} :
      P pos (.error e) → InContext construct P pos (.error (e.within construct))

/-- One after the other. -/
inductive AndThen (P : Outcomes α) (Q : α → Outcomes β) : Outcomes β where
  | failed {pos : Nat} {e : ParseError} : P pos (.error e) → AndThen P Q pos (.error e)
  | done {pos behind : Nat} {value : α} {answer : Except ParseError (Nat × β)} :
      P pos (.ok (behind, value)) → Q value behind answer → AndThen P Q pos answer

/-- Trying alternatives, given the furthest error of those tried before. -/
inductive ChoiceFrom : Option ParseError → List (Outcomes α) → Outcomes α where
  | found {failed : Option ParseError} {P : Outcomes α} {others : List (Outcomes α)} {pos : Nat}
      {answer : Nat × α} : P pos (.ok answer) → ChoiceFrom failed (P :: others) pos (.ok answer)
  | next {failed : Option ParseError} {P : Outcomes α} {others : List (Outcomes α)} {pos : Nat}
      {e : ParseError} {answer : Except ParseError (Nat × α)} : P pos (.error e) →
      ChoiceFrom (some (furthest failed e)) others pos answer → ChoiceFrom failed (P :: others) pos answer
  | begun {e : ParseError} {pos : Nat} : pos < e.position → ChoiceFrom (some e) [] pos (.error e)
  | noneBegun {failed : Option ParseError} {pos : Nat} : (∀ e ∈ failed, e.position ≤ pos) →
      ChoiceFrom failed [] pos (.error { fault := .noAlternative, position := pos })

/-- The rounds of a list behind its first item, however many there are. -/
inductive ListTail (Item : Outcomes α) (Separator : Outcomes β) : List α → Outcomes (List α) where
  | noSeparator {done : List α} {pos : Nat} {e : ParseError} : Separator pos (.error e) →
      ListTail Item Separator done pos (.ok (pos, done.reverse))
  | dangling {done : List α} {pos start : Nat} {mark : β} {e : ParseError} :
      Separator pos (.ok (start, mark)) → Item start (.error e) → e.position ≤ start →
      ListTail Item Separator done pos (.ok (pos, done.reverse))
  | broken {done : List α} {pos start : Nat} {mark : β} {e : ParseError} :
      Separator pos (.ok (start, mark)) → Item start (.error e) → start < e.position →
      ListTail Item Separator done pos (.error e)
  | round {done : List α} {pos start next : Nat} {mark : β} {value : α}
      {answer : Except ParseError (Nat × List α)} : Separator pos (.ok (start, mark)) →
      Item start (.ok (next, value)) → ListTail Item Separator (value :: done) next answer →
      ListTail Item Separator done pos answer

/-- A list from its first item on. -/
inductive SeparatedList (Item : Outcomes α) (Separator : Outcomes β) : Outcomes (List α) where
  | empty {pos : Nat} {e : ParseError} : Item pos (.error e) → e.position ≤ pos →
      SeparatedList Item Separator pos (.ok (pos, []))
  | broken {pos : Nat} {e : ParseError} : Item pos (.error e) → pos < e.position →
      SeparatedList Item Separator pos (.error e)
  | begun {pos next : Nat} {value : α} {answer : Except ParseError (Nat × List α)} :
      Item pos (.ok (next, value)) → ListTail Item Separator [value] next answer →
      SeparatedList Item Separator pos answer

/-! ### Outcomes of parsers

Parts that come to the answers of parsers make a whole that comes to the answers of the whole parser. For
all combinators but lists this can be read off the rules. -/

section Graph

variable (input : Array τ)

theorem map_graph (f : α → β) (p : Parser τ α) : Map f (graph p input) = graph (p.map f) input := by
  funext pos answer
  apply propext
  unfold graph Parser.map
  constructor
  · intro h
    cases h with
    | ok hvalue => rw [hvalue]
    | error he => rw [he]
  · rintro rfl
    rcases hanswer : p input pos with e | ⟨next, value⟩
    · exact .error hanswer
    · exact .ok hanswer

theorem inContext_graph (construct : String) (p : Parser τ α) :
    InContext construct (graph p input) = graph (p.inContext construct) input := by
  funext pos answer
  apply propext
  unfold graph Parser.inContext
  constructor
  · intro h
    cases h with
    | ok hvalue => rw [hvalue]
    | error he => rw [he]
  · rintro rfl
    rcases hanswer : p input pos with e | found
    · exact .error hanswer
    · exact .ok hanswer

theorem andThen_graph (p : Parser τ α) (q : α → Parser τ β) :
    AndThen (graph p input) (fun value => graph (q value) input) = graph (p.andThen q) input := by
  funext pos answer
  apply propext
  unfold graph Parser.andThen
  constructor
  · intro h
    cases h with
    | failed he => rw [he]
    | done hvalue hnext =>
      rw [hvalue]
      exact hnext
  · rintro rfl
    rcases hanswer : p input pos with e | ⟨behind, value⟩
    · exact .failed hanswer
    · exact .done hanswer rfl

/-- When no alternative is left, the error of one that had begun counts. -/
theorem choiceFrom_nil_iff (failed : Option ParseError) (pos : Nat)
    (answer : Except ParseError (Nat × α)) :
    ChoiceFrom failed [] pos answer ↔ Parser.choiceFrom failed [] input pos = answer := by
  constructor
  · intro h
    cases h with
    | begun hbegun => simp only [Parser.choiceFrom, if_pos hbegun]
    | noneBegun hnone =>
      cases failed with
      | none => rfl
      | some e => simp only [Parser.choiceFrom, if_neg (Nat.not_lt_of_le (hnone e rfl))]
  · rintro rfl
    cases failed with
    | none =>
      refine .noneBegun ?_
      intro e he
      cases he
    | some e =>
      simp only [Parser.choiceFrom]
      split
      · rename_i hbegun
        exact .begun hbegun
      · rename_i hnone
        refine .noneBegun ?_
        intro e' he'
        obtain rfl := Option.some.inj he'
        exact Nat.le_of_not_lt hnone

theorem choiceFrom_graph (failed : Option ParseError) (parsers : List (Parser τ α)) :
    ChoiceFrom failed (parsers.map fun p => graph p input) =
      graph (Parser.choiceFrom failed parsers) input := by
  -- the induction is on the alternatives, with any error kept from those before
  induction parsers generalizing failed with
  | nil =>
    funext pos answer
    exact propext (choiceFrom_nil_iff input failed pos answer)
  | cons p others ih =>
    funext pos answer
    apply propext
    rw [List.map_cons]
    constructor
    · intro h
      show Parser.choiceFrom failed (p :: others) input pos = answer
      unfold Parser.choiceFrom
      cases h with
      | found hvalue =>
        -- `graph` is opened by its type, for the rules only know what the first alternative comes to
        have hvalue : p input pos = _ := hvalue
        rw [hvalue]
      | @next _ _ _ _ e _ he hlater =>
        have he : p input pos = _ := he
        rw [ih] at hlater
        rw [he]
        exact hlater
    · intro h
      have h : Parser.choiceFrom failed (p :: others) input pos = answer := h
      unfold Parser.choiceFrom at h
      -- in the other direction the answer of the first alternative picks the rule
      rcases hanswer : p input pos with e | found
      · rw [hanswer] at h
        refine .next hanswer ?_
        rw [ih]
        exact h
      · rw [hanswer] at h
        subst h
        exact .found hanswer

end Graph

/-! ### Lists -/

section Lists

variable {item : Parser τ α} {separator : Parser τ β} {input : Array τ}

/-- A list is at its end where no separator follows. -/
theorem listTail_noSeparator_iff {pos : Nat} {e : ParseError} (hmark : separator input pos = .error e)
    (done : List α) (answer : Except ParseError (Nat × List α)) :
    ListTail (graph item input) (graph separator input) done pos answer ↔
      .ok (pos, done.reverse) = answer := by
  constructor
  · intro h
    cases h with
    | noSeparator _ => rfl
    | dangling hmark' | broken hmark' | round hmark' => cases hmark.symm.trans hmark'
  · rintro rfl
    exact .noSeparator hmark

/-- If no item follows a separator, it counts how far the item had begun. -/
theorem listTail_noItem_iff {pos start : Nat} {mark : β} {e : ParseError}
    (hmark : separator input pos = .ok (start, mark)) (hvalue : item input start = .error e)
    (done : List α) (answer : Except ParseError (Nat × List α)) :
    ListTail (graph item input) (graph separator input) done pos answer ↔
      (if start < e.position then .error e else .ok (pos, done.reverse)) = answer := by
  constructor
  · intro h
    cases h with
    | noSeparator hmark' => cases hmark.symm.trans hmark'
    | dangling hmark' hvalue' hle =>
      cases hmark.symm.trans hmark'
      cases hvalue.symm.trans hvalue'
      rw [if_neg (Nat.not_lt_of_le hle)]
    | broken hmark' hvalue' hlt =>
      cases hmark.symm.trans hmark'
      cases hvalue.symm.trans hvalue'
      rw [if_pos hlt]
    | round hmark' hvalue' =>
      cases hmark.symm.trans hmark'
      cases hvalue.symm.trans hvalue'
  · rintro rfl
    split
    · rename_i hlt
      exact .broken hmark hvalue hlt
    · rename_i hle
      exact .dangling hmark hvalue (Nat.le_of_not_lt hle)

/-- Behind a round the list goes on. -/
theorem listTail_round_iff {pos start next : Nat} {mark : β} {value : α}
    (hmark : separator input pos = .ok (start, mark)) (hvalue : item input start = .ok (next, value))
    (done : List α) (answer : Except ParseError (Nat × List α)) :
    ListTail (graph item input) (graph separator input) done pos answer ↔
      ListTail (graph item input) (graph separator input) (value :: done) next answer := by
  constructor
  · intro h
    cases h with
    | noSeparator hmark' => cases hmark.symm.trans hmark'
    | dangling hmark' hvalue' | broken hmark' hvalue' =>
      cases hmark.symm.trans hmark'
      cases hvalue.symm.trans hvalue'
    | round hmark' hvalue' hrest =>
      cases hmark.symm.trans hmark'
      cases hvalue.symm.trans hvalue'
      exact hrest
  · intro hrest
    exact .round hmark hvalue hrest

/-- **The loop of a list comes to an end.** If every round takes a token of the input, the parser has rounds
enough, and its answer is the only outcome. -/
theorem listTail_iff
    (hround : ∀ pos start next mark value, separator input pos = .ok (start, mark) →
      item input start = .ok (next, value) → pos < next ∧ next ≤ input.size)
    {fuel : Nat} (done : List α) {pos : Nat} (hfuel : input.size - pos < fuel)
    (answer : Except ParseError (Nat × List α)) :
    ListTail (graph item input) (graph separator input) done pos answer ↔
      Parser.listTail item separator fuel done input pos = answer := by
  -- by induction on the rounds: there are more of them than tokens left, here and behind every round
  induction fuel generalizing done pos with
  | zero => exact absurd hfuel (Nat.not_lt_zero _)
  | succ fuel ih =>
    unfold Parser.listTail
    rcases hmark : separator input pos with e | ⟨start, mark⟩
    · exact listTail_noSeparator_iff hmark done answer
    · rcases hvalue : item input start with e | ⟨next, value⟩
      · rw [listTail_noItem_iff hmark hvalue]
        simp only [hvalue]
      · obtain ⟨hlt, hnext⟩ := hround pos start next mark value hmark hvalue
        have hmore : input.size - next < fuel := by omega
        rw [listTail_round_iff hmark hvalue, ih (value :: done) hmore]
        simp only [hvalue]

theorem separatedList_graph
    (hround : ∀ pos start next mark value, separator input pos = .ok (start, mark) →
      item input start = .ok (next, value) → pos < next ∧ next ≤ input.size)
    (hfirst : ∀ pos next value, item input pos = .ok (next, value) → pos ≤ next) :
    SeparatedList (graph item input) (graph separator input) =
      graph (Parser.separatedList item separator) input := by
  funext pos answer
  apply propext
  show _ ↔ Parser.separatedList item separator input pos = answer
  unfold Parser.separatedList
  rcases hvalue : item input pos with e | ⟨next, value⟩
  · -- without a first item it depends on how far the failure came whether the list is empty or broken
    simp only
    constructor
    · intro h
      cases h with
      | empty hvalue' hle =>
        cases hvalue.symm.trans hvalue'
        rw [if_neg (Nat.not_lt_of_le hle)]
      | broken hvalue' hlt =>
        cases hvalue.symm.trans hvalue'
        rw [if_pos hlt]
      | begun hvalue' => cases hvalue.symm.trans hvalue'
    · rintro rfl
      split
      · -- in the other direction the same bound picks the rule
        rename_i hlt
        exact .broken hvalue hlt
      · rename_i hle
        exact .empty hvalue (Nat.le_of_not_lt hle)
  · -- the rounds are counted from the start of the first item, so there are not fewer than needed
    have hle := hfirst pos next value hvalue
    have hfuel : input.size - next < input.size - pos + 1 := by omega
    simp only
    rw [← listTail_iff hround [value] hfuel]
    constructor
    · intro h
      -- with a first item only the rule for lists that have begun is left
      cases h with
      | empty hvalue' | broken hvalue' => cases hvalue.symm.trans hvalue'
      | begun hvalue' hrest =>
        cases hvalue.symm.trans hvalue'
        exact hrest
    · intro hrest
      exact .begun hvalue hrest

end Lists

end Outcomes

/-! ### Combinations -/

/-- How a parser is put together from parsers of one token. -/
inductive Combination (τ : Type) : Type → Type 1 where
  | equal (token : τ) : Combination τ τ
  | satisfy {α : Type} (expected : String) (f : τ → Option α) : Combination τ α
  | map {α β : Type} (f : α → β) (p : Combination τ α) : Combination τ β
  | unit {α : Type} (p : Combination τ α) : Combination τ Unit
  | inContext {α : Type} (construct : String) (p : Combination τ α) : Combination τ α
  | pair {α β : Type} (p : Combination τ α) (q : Combination τ β) : Combination τ (α × β)
  | triple {α β γ : Type} (p : Combination τ α) (q : Combination τ β) (r : Combination τ γ) :
      Combination τ (α × β × γ)
  | preceded {α β : Type} (p : Combination τ α) (q : Combination τ β) : Combination τ β
  | delimited {α β γ : Type} (left : Combination τ α) (p : Combination τ β) (right : Combination τ γ) :
      Combination τ β
  | choice {α : Type} {count : Nat} (parsers : Fin count → Combination τ α) : Combination τ α
  | separatedList {α β : Type} (item : Combination τ α) (separator : Combination τ β) :
      Combination τ (List α)

namespace Combination

variable [DecidableEq τ] [Describe τ]

/-- The parser of a combination. -/
def parser : {α : Type} → Combination τ α → Parser τ α
  | _, equal token => Parser.equal token
  | _, satisfy expected f => Parser.satisfy expected f
  | _, map f p => p.parser.map f
  | _, unit p => p.parser.unit
  | _, inContext construct p => p.parser.inContext construct
  | _, pair p q => p.parser.pair q.parser
  | _, triple p q r => p.parser.triple q.parser r.parser
  | _, preceded p q => p.parser.preceded q.parser
  | _, delimited left p right => left.parser.delimited p.parser right.parser
  | _, choice parsers => Parser.choice (List.ofFn fun i => (parsers i).parser)
  | _, separatedList item separator => item.parser.separatedList separator.parser

/-- What parsing a combination comes to. -/
def outcomes (input : Array τ) : {α : Type} → Combination τ α → Outcomes α
  | _, equal token => graph (Parser.equal token) input
  | _, satisfy expected f => graph (Parser.satisfy expected f) input
  | _, map f p => .Map f (p.outcomes input)
  | _, unit p => .Map (fun _ => ()) (p.outcomes input)
  | _, inContext construct p => .InContext construct (p.outcomes input)
  | _, pair p q => .AndThen (p.outcomes input) fun a => .Map (fun b => (a, b)) (q.outcomes input)
  | _, triple p q r =>
    .AndThen (p.outcomes input) fun a => .AndThen (q.outcomes input) fun b =>
      .Map (fun c => (a, b, c)) (r.outcomes input)
  | _, preceded p q => .AndThen (p.outcomes input) fun _ => q.outcomes input
  | _, delimited left p right =>
    .AndThen (left.outcomes input) fun _ => .AndThen (p.outcomes input) fun value =>
      .Map (fun _ => value) (right.outcomes input)
  | _, choice parsers => .ChoiceFrom none (List.ofFn fun i => (parsers i).outcomes input)
  | _, separatedList item separator => .SeparatedList (item.outcomes input) (separator.outcomes input)

/-- A combination that never succeeds without taking a token. -/
def Consumes {α : Type} (c : Combination τ α) : Prop :=
  ∀ (input : Array τ) (pos next : Nat) (value : α), c.outcomes input pos (.ok (next, value)) → pos < next

theorem consumes_equal (token : τ) : (equal token).Consumes := by
  intro input pos next value h
  obtain ⟨-, -, hnext⟩ := (equal_eq_ok_iff token input pos next value).mp h
  omega

/-- Every list in a combination has an item or a separator that never succeeds without taking a token. -/
def Productive : {α : Type} → Combination τ α → Prop
  | _, equal _ => True
  | _, satisfy _ _ => True
  | _, map _ p => p.Productive
  | _, unit p => p.Productive
  | _, inContext _ p => p.Productive
  | _, pair p q => p.Productive ∧ q.Productive
  | _, triple p q r => p.Productive ∧ q.Productive ∧ r.Productive
  | _, preceded p q => p.Productive ∧ q.Productive
  | _, delimited left p right => left.Productive ∧ p.Productive ∧ right.Productive
  | _, choice parsers => ∀ i, (parsers i).Productive
  | _, separatedList item separator =>
    item.Productive ∧ separator.Productive ∧ (item.Consumes ∨ separator.Consumes)

/-! ### Discipline -/

theorem bounded {α : Type} (c : Combination τ α) : c.parser.Bounded := by
  induction c with
  | equal token => exact .equal token
  | satisfy expected f => exact .satisfy expected f
  | map f p ih => exact ih.map f
  | unit p ih => exact ih.unit
  | inContext construct p ih => exact ih.inContext construct
  | pair p q ihp ihq => exact ihp.pair ihq
  | triple p q r ihp ihq ihr => exact ihp.triple ihq ihr
  | preceded p q ihp ihq => exact ihp.preceded ihq
  | delimited left p right ihl ihp ihr => exact ihl.delimited ihp ihr
  | choice parsers ih => exact .choice (List.forall_mem_ofFn_iff.mpr ih)
  | separatedList item separator ihi ihs => exact ihi.separatedList ihs

theorem movable {α : Type} (c : Combination τ α) : c.parser.Movable := by
  induction c with
  | equal token => exact .equal token
  | satisfy expected f => exact .satisfy expected f
  | map f p ih => exact ih.map f
  | unit p ih => exact ih.unit
  | inContext construct p ih => exact ih.inContext construct
  | pair p q ihp ihq => exact ihp.pair ihq
  | triple p q r ihp ihq ihr => exact ihp.triple ihq ihr
  | preceded p q ihp ihq => exact ihp.preceded ihq
  | delimited left p right ihl ihp ihr => exact ihl.delimited ihp ihr
  | choice parsers ih => exact .choice (List.forall_mem_ofFn_iff.mpr ih)
  | separatedList item separator ihi ihs => exact ihi.separatedList ihs

/-- If an item or a separator takes a token, a round of their list does, and it stays in the input. -/
theorem round_of_consumes {item : Combination τ α} {separator : Combination τ β} {input : Array τ}
    (hitem : item.outcomes input = graph item.parser input)
    (hseparator : separator.outcomes input = graph separator.parser input)
    (h : item.Consumes ∨ separator.Consumes) {pos start next : Nat} {mark : β} {value : α}
    (hmark : separator.parser input pos = .ok (start, mark))
    (hvalue : item.parser input start = .ok (next, value)) : pos < next ∧ next ≤ input.size := by
  have hempty : ¬ (item.parser.CanBeEmpty input ∧ separator.parser.CanBeEmpty input) := by
    rintro ⟨⟨place, first, hfirst⟩, place', sign, hsign⟩
    rcases h with hconsumes | hconsumes
    · have hlt := hconsumes input place place first
      rw [hitem] at hlt
      exact Nat.lt_irrefl place (hlt hfirst)
    · have hlt := hconsumes input place' place' sign
      rw [hseparator] at hlt
      exact Nat.lt_irrefl place' (hlt hsign)
  exact TakesTokens.round (item.bounded.takesTokens input) (separator.bounded.takesTokens input) hempty hmark
    hvalue

/-- **Parsing a productive combination comes to an end**, with the answer of its parser. -/
theorem outcomes_eq {α : Type} {c : Combination τ α} (h : c.Productive) (input : Array τ) :
    c.outcomes input = graph c.parser input := by
  -- by induction on how the combination is put together; only lists need what `h` says about them
  induction c with
  | equal token => rfl
  | satisfy expected f => rfl
  | map f p ih => rw [outcomes, ih h, Outcomes.map_graph, parser]
  | unit p ih => rw [outcomes, ih h, Outcomes.map_graph, parser, Parser.unit]
  | inContext construct p ih => rw [outcomes, ih h, Outcomes.inContext_graph, parser]
  | pair p q ihp ihq =>
    simp only [outcomes, ihp h.1, ihq h.2, Outcomes.map_graph, Outcomes.andThen_graph]
    rfl
  | triple p q r ihp ihq ihr =>
    simp only [outcomes, ihp h.1, ihq h.2.1, ihr h.2.2, Outcomes.map_graph, Outcomes.andThen_graph]
    rfl
  | preceded p q ihp ihq =>
    simp only [outcomes, ihp h.1, ihq h.2, Outcomes.andThen_graph]
    rfl
  | delimited left p right ihl ihp ihr =>
    simp only [outcomes, ihl h.1, ihp h.2.1, ihr h.2.2, Outcomes.map_graph, Outcomes.andThen_graph]
    rfl
  | choice parsers ih =>
    -- the alternatives are a family, of which both sides make a list
    have hparsers : (fun i => (parsers i).outcomes input) = fun i => graph (parsers i).parser input := by
      funext i
      exact ih i (h i)
    have hlist : List.ofFn (fun i => graph (parsers i).parser input) =
        (List.ofFn fun i => (parsers i).parser).map fun p => graph p input := by
      rw [List.map_ofFn]
      rfl
    rw [outcomes, hparsers, hlist, Outcomes.choiceFrom_graph]
    rfl
  | separatedList item separator ihi ihs =>
    -- the rounds of a list count down only if each one takes something, which is what `h` says
    obtain ⟨hitem, hseparator, hconsumes⟩ := h
    have hitem := ihi hitem
    have hseparator := ihs hseparator
    rw [outcomes, hitem, hseparator]
    refine Outcomes.separatedList_graph ?_ ?_
    · intro pos start next mark value hmark hvalue
      exact round_of_consumes hitem hseparator hconsumes hmark hvalue
    · intro pos next value hvalue
      exact (item.bounded.next hvalue).1

/-- **Combinations are disciplined.** Whatever parser is put together by the combinators, if its lists take
tokens then parsing ends at every place of every input, and its only outcome is the answer of the parser. That
answer, or that error, lies between the place and the end of the input. And with any tokens in front of the
input, from as much further on, the parser answers the same with every position moved by as much. -/
theorem parser_disciplined {α : Type} (c : Combination τ α) (h : c.Productive) (input : Array τ)
    (pos : Nat) :
    (∀ answer, c.outcomes input pos answer ↔ c.parser input pos = answer) ∧
      InBounds input.size pos (c.parser input pos) ∧
      ∀ front : Array τ,
        c.parser (front ++ input) (front.size + pos) = moved front.size (c.parser input pos) := by
  refine ⟨?_, c.bounded input pos, ?_⟩
  · intro answer
    rw [outcomes_eq h]
    rfl
  · intro front
    exact c.movable front input pos

/-- A list of lists, whose items may be empty and whose separators are not. Its last item leaves a comma that no
letter follows. -/
theorem parser_disciplined_nested_lists :
    let c : Combination Char (List (List Char)) :=
      .separatedList (.separatedList (.equal 'a') (.equal ',')) (.equal ';')
    let input : Array Char := #['a', ';', ';', 'a', ',']
    c.Productive ∧ c.parser input 0 = .ok (4, [['a'], [], ['a']]) ∧
      (∀ answer, c.outcomes input 0 answer ↔ c.parser input 0 = answer) ∧
      InBounds input.size 0 (c.parser input 0) ∧
      ∀ front : Array Char, c.parser (front ++ input) front.size = moved front.size (c.parser input 0) := by
  intro c input
  have hproductive : c.Productive :=
    ⟨⟨trivial, trivial, Or.inr (consumes_equal ',')⟩, trivial, Or.inr (consumes_equal ';')⟩
  exact ⟨hproductive, rfl, parser_disciplined c hproductive input 0⟩

end Combination

end RuleText.Parser
