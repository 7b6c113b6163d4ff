import RuleText.Proofs.Grammar.Bounds
import RuleText.Proofs.Grammar.Failure

/-!
# What a list takes

A list takes an item, then a separator and an item, and so on as far as this goes, and it takes nothing else.
Where the next item would start decides how it ends: at the start of the list while it is still empty, and
from then on behind another separator. If there is no such place, or the item there fails before it has
begun, the list stands as it is, and the separator in front of that place is left alone. If the item had
begun, its error is that of the list.

Both ways to end are said of the same chain of items (`Items`), so the answers of a list and its errors have
one law. It holds for any two parsers that take what they take from the input (`TakesTokens`), as long as not
both of them can do without a token; two that can are able to go on with nothing for ever.

Main definitions:

- `Items`, `NextStart`, `ItemsEnd`: the items of a list, where the next one would start, and a list that is
  at its end.

Main statement:

- `separatedList_exact`: the answers and the errors of a list.
-/

namespace RuleText.Parser

variable {τ α β : Type}

variable {item : Parser τ α} {separator : Parser τ β} {input : Array τ}

/-! ### Items -/

/-- From one position to another by items with separators between them, possibly none; with the values of
the items in order. -/
inductive Items (item : Parser τ α) (separator : Parser τ β) (input : Array τ) :
    Nat → List α → Nat → Prop where
  | none (pos : Nat) : Items item separator input pos [] pos
  | some {pos next stop : Nat} {first : α} {others : List α} : item input pos = .ok (next, first) →
      Chain item separator input next others stop → Items item separator input pos (first :: others) stop

/-- Where another item would start: the first one where the list does, and any other behind a separator. -/
def NextStart (separator : Parser τ β) (input : Array τ) (values : List α) (stop start : Nat) : Prop :=
  (values = [] ∧ start = stop) ∨ (values ≠ [] ∧ ∃ mark, separator input stop = .ok (start, mark))

/-- No item follows: there is no separator to put in front of it, or it does not even begin. -/
def ItemsEnd (item : Parser τ α) (separator : Parser τ β) (input : Array τ) (values : List α)
    (stop : Nat) : Prop :=
  (values ≠ [] ∧ ∃ e, separator input stop = .error e) ∨
    ∃ start e, NextStart separator input values stop start ∧ item input start = .error e ∧
      e.position ≤ start

theorem nextStart_nil_iff (stop start : Nat) :
    NextStart separator input ([] : List α) stop start ↔ start = stop := by
  simp [NextStart]

theorem nextStart_cons_iff (first : α) (others : List α) (stop start : Nat) :
    NextStart separator input (first :: others) stop start ↔
      ∃ mark, separator input stop = .ok (start, mark) := by
  simp [NextStart]

/-- An empty list is at its end where no item begins. -/
theorem itemsEnd_nil_iff (stop : Nat) :
    ItemsEnd item separator input [] stop ↔
      ∃ e, item input stop = .error e ∧ e.position ≤ stop := by
  simp [ItemsEnd, nextStart_nil_iff]

/-- And any other one where a chain of separators and items is. -/
theorem itemsEnd_cons_iff (first : α) (others : List α) (stop : Nat) :
    ItemsEnd item separator input (first :: others) stop ↔ ListEnds item separator input stop := by
  unfold ItemsEnd ListEnds
  simp only [nextStart_cons_iff]
  refine or_congr ?_ ?_
  · exact and_iff_right (List.cons_ne_nil first others)
  · constructor
    · rintro ⟨start, e, ⟨mark, hmark⟩, hitem, hle⟩
      exact ⟨start, mark, e, hmark, hitem, hle⟩
    · rintro ⟨start, mark, e, hmark, hitem, hle⟩
      exact ⟨start, e, ⟨mark, hmark⟩, hitem, hle⟩

/-! ### Lists -/

section Lists

variable (hitem : item.TakesTokens input) (hseparator : separator.TakesTokens input)
  (hempty : ¬ (item.CanBeEmpty input ∧ separator.CanBeEmpty input))

include hitem hseparator hempty

/-- A list has taken the items that it answers with, and no other follows. -/
theorem separatedList_eq_ok_iff_items (pos stop : Nat) (values : List α) :
    separatedList item separator input pos = .ok (stop, values) ↔
      Items item separator input pos values stop ∧ ItemsEnd item separator input values stop := by
  rw [separatedList_eq_ok_iff (fun _ _ _ _ _ => hitem.round hseparator hempty)
    (fun pos next value hvalue => (hitem pos next value hvalue).1)]
  constructor
  · rintro (⟨rfl, rfl, e, hfirst, hle⟩ | ⟨first, others, next, rfl, hfirst, hchain, hends⟩)
    · exact ⟨.none stop, (itemsEnd_nil_iff stop).mpr ⟨e, hfirst, hle⟩⟩
    · exact ⟨.some hfirst hchain, (itemsEnd_cons_iff first others stop).mpr hends⟩
  · rintro ⟨hitems, hends⟩
    cases hitems with
    | none => exact Or.inl ⟨rfl, rfl, (itemsEnd_nil_iff pos).mp hends⟩
    | some hfirst hchain =>
      have hends := (itemsEnd_cons_iff _ _ stop).mp hends
      exact Or.inr ⟨_, _, _, rfl, hfirst, hchain, hends⟩

/-- The error of a list is that of an item that had begun, behind items and at the place of the next one. -/
theorem separatedList_eq_error_iff_items (pos : Nat) (e : ParseError) :
    separatedList item separator input pos = .error e ↔
      ∃ values stop start, Items item separator input pos values stop ∧
        NextStart separator input values stop start ∧ item input start = .error e ∧
          start < e.position := by
  rw [separatedList_eq_error_iff (fun _ _ _ _ _ => hitem.round hseparator hempty)
    (fun pos next value hvalue => (hitem pos next value hvalue).1)]
  constructor
  · rintro (⟨hfirst, hlt⟩ | ⟨next, first, hfirst, others, stop, start, mark, hchain, hmark, hvalue, hlt⟩)
    · exact ⟨[], pos, pos, .none pos, (nextStart_nil_iff pos pos).mpr rfl, hfirst, hlt⟩
    · have hnext := (nextStart_cons_iff first others stop start).mpr ⟨mark, hmark⟩
      exact ⟨first :: others, stop, start, .some hfirst hchain, hnext, hvalue, hlt⟩
  · rintro ⟨values, stop, start, hitems, hnext, hvalue, hlt⟩
    cases hitems with
    | none =>
      obtain rfl := (nextStart_nil_iff pos start).mp hnext
      exact Or.inl ⟨hvalue, hlt⟩
    | some hfirst hchain =>
      obtain ⟨mark, hmark⟩ := (nextStart_cons_iff _ _ stop start).mp hnext
      exact Or.inr ⟨_, _, hfirst, _, stop, start, mark, hchain, hmark, hvalue, hlt⟩

/-- **A list takes items with separators between them, and nothing else.** It answers with a chain of items
from its start that cannot go on: no separator follows, or one behind which no item begins, and that one is
not taken. It fails with exactly the error of an item that breaks off after its start, behind such a chain. -/
theorem separatedList_exact (pos : Nat) :
    (∀ stop values, separatedList item separator input pos = .ok (stop, values) ↔
      Items item separator input pos values stop ∧ ItemsEnd item separator input values stop) ∧
    ∀ e, separatedList item separator input pos = .error e ↔
      ∃ values stop start, Items item separator input pos values stop ∧
        NextStart separator input values stop start ∧ item input start = .error e ∧
          start < e.position := by
  refine ⟨?_, ?_⟩
  · intro stop values
    exact separatedList_eq_ok_iff_items hitem hseparator hempty pos stop values
  · intro e
    exact separatedList_eq_error_iff_items hitem hseparator hempty pos e

end Lists

/-- Pairs of letters between commas. The comma behind the second pair has no pair behind it and is left for
whoever asked for the list. -/
theorem separatedList_exact_dangling :
    let item : Parser Char Char := preceded (equal 'a') (equal 'b')
    let separator : Parser Char Unit := unit (equal ',')
    let input : Array Char := #['a', 'b', ',', 'a', 'b', ',', ')']
    item.TakesTokens input ∧ separator.TakesTokens input ∧
      ¬ (item.CanBeEmpty input ∧ separator.CanBeEmpty input) ∧
      separatedList item separator input 0 = .ok (5, ['b', 'b']) ∧
      (∀ stop values, separatedList item separator input 0 = .ok (stop, values) ↔
        Items item separator input 0 values stop ∧ ItemsEnd item separator input values stop) ∧
      ∀ e, separatedList item separator input 0 = .error e ↔
        ∃ values stop start, Items item separator input 0 values stop ∧
          NextStart separator input values stop start ∧ item input start = .error e ∧
            start < e.position := by
  intro item separator input
  have hitem : item.TakesTokens input := ((Bounded.equal 'a').preceded (.equal 'b')).takesTokens input
  have hseparator : separator.TakesTokens input := (Bounded.equal ',').unit.takesTokens input
  have hempty : ¬ (item.CanBeEmpty input ∧ separator.CanBeEmpty input) := by
    rintro ⟨-, pos, mark, hmark⟩
    obtain ⟨-, hnext⟩ := (unit_equal_eq_ok_iff ',' input pos pos mark).mp hmark
    omega
  exact ⟨hitem, hseparator, hempty, rfl, separatedList_exact hitem hseparator hempty 0⟩

end RuleText.Parser
