import RuleText.Evaluation.Run
import RuleText.Proofs.Regex.Route

/-!
# What a program means

A run keeps a context that changes with every item: names are bound as bindings come along, the properties
vanish with the first statement, conditions replace one another until the statement is complete. What comes
out of it can be said without any of this. Only the bindings before the first statement count, since the
others find no properties; so there is one table of names for the whole program, and whether a statement
fires is a property of the statement and that table. The run as a whole is then the lines of the firing
statements in order, up to the first condition whose pattern is no regular expression.

The predicates are decidable, since whether an expression is found in a text is.

Main definitions:

- `boundNames`, `Program.names`: the names that a program binds;
- `Statement.Fires`: whether the conditions of a statement hold;
- `faultyCondition?`, `verdict`: how a run ends;
- `firing`, `Statement.line`: what a run writes.
-/

namespace RuleText

/-! ### Names -/

/-- The names after a binding. A property that is not there leaves its name as it was. -/
def Binding.bind (b : Binding) (properties : Properties) (names : String → Option String) :
    String → Option String :=
  match properties.get? b.property with
  | some value => fun name => if name = b.name then some value.text else names name
  | none => names

/-- The names after the bindings that stand before the first statement. -/
def boundNames (properties : Properties) (names : String → Option String) :
    List Item → String → Option String
  | .binding b :: others => boundNames properties (b.bind properties names) others
  | _ => names

/-- The names that a program binds. -/
def Program.names (p : Program) (properties : Properties) : String → Option String :=
  boundNames properties (fun _ => none) p.items

/-- Without properties no binding does anything. -/
theorem boundNames_empty (names : String → Option String) (items : List Item) :
    boundNames {} names items = names := by
  induction items with
  | nil => rfl
  | cons item others ih =>
    cases item with
    | statement s => rfl
    | binding b =>
      have hsame : b.bind {} names = names := by
        rw [Binding.bind, Table.get?_empty]
      rw [boundNames, hsame]
      exact ih

/-! ### Conditions -/

/-- A condition holds of a value if its pattern is a regular expression that matches it. -/
def Condition.HoldsOf (c : Condition) (value : String) : Prop :=
  ∃ regex ∈ c.pattern.compile?, regex.FoundIn value.toList

instance (c : Condition) (value : String) : Decidable (c.HoldsOf value) :=
  inferInstanceAs (Decidable (∃ regex ∈ c.pattern.compile?, regex.FoundIn value.toList))

/-- The last condition on a name, which replaces those before it. -/
def lastOn? (conditions : List Condition) (name : String) : Option Condition :=
  conditions.reverse.find? fun c => c.name = name

theorem lastOn?_cons (c : Condition) (others : List Condition) (name : String) :
    lastOn? (c :: others) name =
      (lastOn? others name).or (if c.name = name then some c else none) := by
  rw [lastOn?, List.reverse_cons, List.find?_append, List.find?_singleton]
  simp only [decide_eq_true_eq]
  rfl

theorem lastOn?_eq_some {conditions : List Condition} {name : String} {last : Condition}
    (h : lastOn? conditions name = some last) : last ∈ conditions ∧ last.name = name := by
  have hmem := List.mem_of_find?_eq_some h
  have hname := List.find?_some h
  exact ⟨List.mem_reverse.mp hmem, of_decide_eq_true hname⟩

theorem exists_lastOn? {conditions : List Condition} {name : String}
    (h : name ∈ conditions.map Condition.name) : ∃ last, lastOn? conditions name = some last := by
  obtain ⟨c, hc, hname⟩ := List.mem_map.mp h
  refine Option.isSome_iff_exists.mp (List.find?_isSome.mpr ?_)
  exact ⟨c, List.mem_reverse.mpr hc, decide_eq_true hname⟩

/-! ### Statements -/

/-- A statement fires if every name among its conditions is bound, and the last condition on it holds of
the value. -/
def Statement.Fires (s : Statement) (names : String → Option String) : Prop :=
  ∀ name ∈ s.conditions.map Condition.name,
    ∃ value ∈ names name, ∃ last ∈ lastOn? s.conditions name, last.HoldsOf value

instance (s : Statement) (names : String → Option String) : Decidable (s.Fires names) :=
  inferInstanceAs (Decidable (∀ name ∈ s.conditions.map Condition.name,
    ∃ value ∈ names name, ∃ last ∈ lastOn? s.conditions name, last.HoldsOf value))

/-- Whether a pattern is no regular expression. -/
def Condition.faulty (c : Condition) : Bool :=
  c.pattern.compile?.isNone

theorem Condition.faulty_eq_false_iff (c : Condition) :
    c.faulty = false ↔ ∃ regex, c.pattern.compile? = some regex := by
  rw [faulty]
  cases c.pattern.compile? <;> simp

theorem Condition.faulty_iff (c : Condition) : c.faulty = true ↔ c.pattern.compile? = none :=
  Option.isNone_iff_eq_none

/-- What a statement that fires writes: the text of its block and a line feed. -/
def Statement.line (s : Statement) : Bytes :=
  encodeUtf8 (s.output.text.toList ++ ['\n'])

/-- The first condition in a list of statements that is faulty, in document order. -/
def faultyCondition? (statements : List Statement) : Option Condition :=
  (statements.flatMap Statement.conditions).find? Condition.faulty

/-- The statements before the first one with a faulty condition, as far as they fire. -/
def firing (names : String → Option String) (statements : List Statement) : List Statement :=
  (statements.takeWhile fun s => !s.conditions.any Condition.faulty).filter fun s => s.Fires names

/-- How a run over some statements ends, from given counts on: with the first faulty condition, or with the
number of statements and of those that fired. -/
def verdict (names : String → Option String) (before : Stats) (statements : List Statement) :
    Except EvalError Stats :=
  match faultyCondition? statements with
  | some c => .error (.invalidPattern c.name c.pattern)
  | none =>
    .ok ⟨before.statements + statements.length, before.fired + (firing names statements).length⟩

/-! ### One statement at a time -/

section Cons

variable (names : String → Option String) (before : Stats) {s : Statement} (others : List Statement)

theorem faultyCondition?_cons (s : Statement) :
    faultyCondition? (s :: others) =
      (s.conditions.find? Condition.faulty).or (faultyCondition? others) := by
  rw [faultyCondition?, List.flatMap_cons, List.find?_append]
  rfl

/-- From a statement with a faulty condition on nothing is written. -/
theorem firing_cons_of_faulty {c : Condition} (h : s.conditions.find? Condition.faulty = some c) :
    firing names (s :: others) = [] := by
  have hany : s.conditions.any Condition.faulty = true :=
    List.any_eq_true.mpr ⟨c, List.mem_of_find?_eq_some h, List.find?_some h⟩
  rw [firing, List.takeWhile_cons, hany]
  rfl

theorem firing_cons_of_sound (h : s.conditions.find? Condition.faulty = none) :
    firing names (s :: others) =
      if s.Fires names then s :: firing names others else firing names others := by
  have hany : s.conditions.any Condition.faulty = false :=
    List.any_eq_false.mpr (List.find?_eq_none.mp h)
  rw [firing, List.takeWhile_cons, hany, Bool.not_false, if_pos rfl, List.filter_cons]
  simp only [decide_eq_true_eq]
  rfl

/-- Without a faulty condition every statement is reached. -/
theorem firing_eq_filter {statements : List Statement} (h : faultyCondition? statements = none) :
    firing names statements = statements.filter fun s => s.Fires names := by
  induction statements with
  | nil => rfl
  | cons s others ih =>
    rw [faultyCondition?_cons] at h
    obtain ⟨hfind, hothers⟩ := Option.or_eq_none_iff.mp h
    rw [firing_cons_of_sound names others hfind, ih hothers, List.filter_cons]
    simp only [decide_eq_true_eq]

theorem verdict_cons_of_faulty {c : Condition} (h : s.conditions.find? Condition.faulty = some c) :
    verdict names before (s :: others) = .error (.invalidPattern c.name c.pattern) := by
  rw [verdict, faultyCondition?_cons, h]
  rfl

theorem verdict_cons_of_sound (h : s.conditions.find? Condition.faulty = none) :
    verdict names before (s :: others) =
      verdict names ⟨before.statements + 1, before.fired + (decide (s.Fires names)).toNat⟩ others := by
  rw [verdict, verdict, faultyCondition?_cons, h, Option.none_or, firing_cons_of_sound names others h]
  cases faultyCondition? others with
  | some c => rfl
  | none =>
    -- the statement is counted, and once more if it fires
    by_cases hfires : s.Fires names
    · rw [if_pos hfires, decide_eq_true hfires, List.length_cons, List.length_cons]
      simp only [Bool.toNat_true, Nat.add_assoc, Nat.add_comm 1]
    · rw [if_neg hfires, decide_eq_false hfires, List.length_cons]
      simp only [Bool.toNat_false, Nat.add_assoc, Nat.add_comm 1, Nat.add_zero]

end Cons

end RuleText
