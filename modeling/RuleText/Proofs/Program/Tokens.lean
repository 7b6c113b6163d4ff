import RuleText.Program.Grammar
import RuleText.Proofs.Grammar.Reads

/-!
# The tokens of a program

A program has exactly one way of being written as tokens, and the parser reads a list of tokens as a
program exactly if it is that. So nothing outside the grammar is accepted, a list of tokens is no program in
two ways, and no token is dropped.

The constructs are read in the sense of `Parser.Reads`, each by the law for the combinator that makes it
up. An item begins with the keyword or with an opening parenthesis, so the alternatives of the grammar
exclude each other and the first one that succeeds is the only one.

Main definitions:

- `Program.tokens`, and the same for the parts of a program.

Main statements:

- `Program.reads_binding`, `Program.reads_statement`: the constructs;
- `Program.itemsFrom_eq_ok_iff`: the loop over the items;
- `Program.ofTokens?_exact`: the tokens of a program, and they alone, are read as the program.
-/

namespace RuleText

/-! ### Writing programs as tokens -/

/-- The token of a pattern. -/
def Pattern.token : Pattern → Token
  | literal text => .identifier text
  | regex text => .regex text

/-- The tokens of a condition. -/
def Condition.tokens (c : Condition) : List Token :=
  [.identifier c.name, .delimiter .equal, c.pattern.token]

/-- The tokens of a statement. -/
def Statement.tokens (s : Statement) : List Token :=
  .delimiter .openParen ::
    (List.intercalate [.delimiter .comma] (s.conditions.map Condition.tokens) ++
      [.delimiter .closeParen, .block s.output.raw])

/-- The tokens of a binding. -/
def Binding.tokens (b : Binding) : List Token :=
  [.keyword .bind, .identifier b.name, .delimiter .equal, .identifier b.property]

/-- The tokens of an item. -/
def Item.tokens : Item → List Token
  | binding b => b.tokens
  | statement s => s.tokens

/-- The tokens of a program. -/
def Program.tokens (p : Program) : List Token :=
  p.items.flatMap Item.tokens

theorem Item.tokens_ne_nil (i : Item) : i.tokens ≠ [] := by
  cases i with
  | binding b => exact List.cons_ne_nil _ _
  | statement s => exact List.cons_ne_nil _ _

theorem flatMap_tokens_eq_nil_iff (items : List Item) : items.flatMap Item.tokens = [] ↔ items = [] := by
  refine ⟨fun h => ?_, fun h => by rw [h]; rfl⟩
  cases items with
  | nil => rfl
  | cons first others =>
    rw [List.flatMap_cons, List.append_eq_nil_iff] at h
    exact absurd h.1 first.tokens_ne_nil

namespace Program

open RuleText.Parser

/-! ### The constructs -/

theorem reads_identifier : identifier.Reads fun name => [.identifier name] := by
  refine Reads.satisfy _ ?_
  intro token name
  cases token <;> simp

theorem reads_pattern : pattern.Reads fun p => [p.token] := by
  refine Reads.satisfy _ ?_
  intro token p
  cases token <;> cases p <;> simp [Pattern.token]

theorem reads_outputBlock : outputBlock.Reads fun block => [.block block.raw] := by
  refine Reads.satisfy _ ?_
  rintro token ⟨raw⟩
  cases token <;> simp

theorem reads_delimiter (d : Delimiter) : (delimiter d).Reads fun _ => [.delimiter d] :=
  Reads.unit_equal _

/-- **Bindings.** -/
theorem reads_binding : binding.Reads Binding.tokens := by
  have htriple := reads_identifier.triple (reads_delimiter .equal) reads_identifier
  refine Reads.inContext ?_ "binding"
  refine Reads.map (htriple.preceded (.keyword .bind))
    (fun b : Binding => (b.name, (), b.property)) ?_ ?_
  · intro b
    rfl
  · intro values
    rfl

theorem reads_condition : condition.Reads Condition.tokens := by
  have htriple := reads_identifier.triple (reads_delimiter .equal) reads_pattern
  refine Reads.inContext ?_ "condition"
  refine Reads.map htriple (fun c : Condition => (c.name, (), c.pattern)) ?_ ?_
  · intro c
    rfl
  · intro values
    rfl

/-- What a condition cannot begin with is refused at its start. -/
theorem condition_refuses {tokens : Array Token} {pos : Nat} {token : Token}
    (htoken : tokens[pos]? = some token) (h : ∀ name, token ≠ .identifier name) :
    ∃ e, condition tokens pos = .error e ∧ e.position ≤ pos := by
  have hidentifier : ∃ e, identifier tokens pos = .error e ∧ e.position = pos := by
    rw [identifier, satisfy]
    simp only [htoken]
    cases token with
    | identifier name => exact absurd rfl (h name)
    | _ => exact ⟨_, rfl, rfl⟩
  obtain ⟨e, he, hpos⟩ := hidentifier
  refine ⟨e.within "condition", ?_, Nat.le_of_eq hpos⟩
  rw [condition, inContext, map, triple, andThen, he]

theorem reads_conditions : conditions.Reads fun list =>
    .delimiter .openParen ::
      (List.intercalate [.delimiter .comma] (list.map Condition.tokens) ++ [.delimiter .closeParen]) := by
  refine reads_condition.delimitedList _ ?_ ?_ ?_
  · intro c
    exact List.cons_ne_nil _ _
  · decide
  · intro tokens pos hclosing
    -- a condition begins with a name, so none begins at the parenthesis
    exact condition_refuses hclosing fun name => Token.noConfusion

/-- **Statements.** -/
theorem reads_statement : statement.Reads Statement.tokens := by
  have hpair := reads_conditions.pair reads_outputBlock
  have hmap : (map (fun values => Statement.mk values.1 values.2) (pair conditions outputBlock)).Reads _ :=
    Reads.map hpair (fun s : Statement => (s.conditions, s.output)) (fun _ => rfl) (fun _ => rfl)
  refine Reads.inContext (hmap.congr ?_) "statement"
  intro s
  rw [Statement.tokens, List.cons_append, List.append_assoc]
  rfl

/-! ### Items -/

/-- **Items.** The two alternatives begin with different tokens. -/
theorem reads_item : item.Reads Item.tokens := by
  intro tokens pos next value
  have hbinding := fun b => reads_binding tokens pos next b
  have hstatement := fun s => reads_statement tokens pos next s
  rw [item, choice, choiceFrom_cons_eq_ok_iff, map_eq_ok_iff]
  simp only [choiceFrom_cons_eq_ok_iff, map_eq_ok_iff, choiceFrom_nil_ne_ok, and_false, exists_false,
    or_false, hbinding, hstatement]
  cases value with
  | binding b =>
    refine ⟨?_, fun h => Or.inl ⟨b, h, rfl⟩⟩
    rintro (⟨b', h, heq⟩ | ⟨e, -, s, -, heq⟩)
    · cases heq
      exact h
    · cases heq
  | statement s =>
    refine ⟨?_, ?_⟩
    · rintro (⟨b, -, heq⟩ | ⟨e, -, s', h, heq⟩)
      · cases heq
      · cases heq
        exact h
    · rintro ⟨hstands, hnext⟩
      rcases hfirst : map Item.binding binding tokens pos with e | ⟨behind, other⟩
      · exact Or.inr ⟨e, rfl, s, ⟨hstands, hnext⟩, rfl⟩
      · -- a binding does not begin with a parenthesis
        obtain ⟨b, hb, -⟩ := (map_eq_ok_iff _ _ _ _ _ _).mp hfirst
        obtain ⟨hkeyword, -⟩ := (reads_binding tokens pos behind b).mp hb
        rw [Binding.tokens, cons_prefix_drop_iff] at hkeyword
        rw [Item.tokens, Statement.tokens, cons_prefix_drop_iff, hkeyword.1] at hstands
        cases hstands.1

/-- One round of the loop. -/
theorem itemsFrom_succ_eq_ok_iff {tokens : Array Token} {pos : Nat} (hmore : pos < tokens.size)
    (fuel : Nat) (items : List Item) :
    itemsFrom tokens (fuel + 1) pos = .ok items ↔
      ∃ first others, items = first :: others ∧ first.tokens <+: tokens.toList.drop pos ∧
        itemsFrom tokens fuel (pos + first.tokens.length) = .ok others := by
  rw [itemsFrom, if_pos hmore]
  refine ⟨fun h => ?_, ?_⟩
  · rcases hitem : item tokens pos with e | ⟨next, first⟩
    · rw [hitem] at h
      cases h
    · rw [hitem] at h
      simp only at h
      -- the item stands at the front, and the loop goes on behind it
      obtain ⟨hstands, rfl⟩ := (reads_item tokens pos next first).mp hitem
      rcases hothers : itemsFrom tokens fuel (pos + first.tokens.length) with e | others
      · rw [hothers] at h
        cases h
      · rw [hothers] at h
        exact ⟨first, others, (Except.ok.inj h).symm, hstands, hothers⟩
  · rintro ⟨first, others, rfl, hstands, hothers⟩
    have hitem := (reads_item tokens pos _ first).mpr ⟨hstands, rfl⟩
    rw [hitem]
    simp only [hothers]

/-- At the end of the tokens there is nothing more to read. -/
theorem no_items_iff {tokens : Array Token} {pos : Nat} (hle : tokens.size ≤ pos) (items : List Item) :
    (.ok [] : Except ParseError (List Item)) = .ok items ↔
      tokens.toList.drop pos = items.flatMap Item.tokens := by
  have hnil : tokens.toList.drop pos = [] := by
    rw [List.drop_eq_nil_iff, Array.length_toList]
    exact hle
  rw [hnil, Except.ok.injEq, eq_comm, eq_comm (b := items.flatMap Item.tokens),
    flatMap_tokens_eq_nil_iff]

/-- **The loop over the items.** With fuel for every token it reads the items that make up the rest of the
tokens. -/
theorem itemsFrom_eq_ok_iff (tokens : Array Token) {fuel pos : Nat}
    (hfuel : tokens.size - pos ≤ fuel) (items : List Item) :
    itemsFrom tokens fuel pos = .ok items ↔ tokens.toList.drop pos = items.flatMap Item.tokens := by
  induction fuel generalizing pos items with
  | zero => exact no_items_iff (by omega) items
  | succ fuel ih =>
    by_cases hmore : pos < tokens.size
    · rw [itemsFrom_succ_eq_ok_iff hmore]
      cases items with
      | nil =>
        refine ⟨?_, fun h => ?_⟩
        · rintro ⟨first, others, heq, -⟩
          cases heq
        · have hle := List.drop_eq_nil_iff.mp h
          rw [Array.length_toList] at hle
          omega
      | cons first others =>
        -- an item has a token at least, so the fuel is enough for the others
        have hlength := List.length_pos_iff.mpr first.tokens_ne_nil
        have hfuel' : tokens.size - (pos + first.tokens.length) ≤ fuel := by omega
        rw [List.flatMap_cons, drop_eq_append_iff, ← ih hfuel' others]
        refine ⟨?_, fun h => ⟨first, others, rfl, h⟩⟩
        rintro ⟨first', others', heq, h⟩
        obtain ⟨rfl, rfl⟩ := List.cons.inj heq
        exact h
    · rw [itemsFrom, if_neg hmore]
      exact no_items_iff (Nat.le_of_not_lt hmore) items

/-- The tokens of a program, and they alone, are read as the program. -/
theorem ofTokens?_eq_ok_iff (tokens : List Token) (p : Program) :
    ofTokens? tokens = .ok p ↔ tokens = p.tokens := by
  obtain ⟨items⟩ := p
  have hfuel : tokens.toArray.size - 0 ≤ tokens.length := Nat.le_of_eq List.size_toArray
  have hitems := itemsFrom_eq_ok_iff tokens.toArray hfuel items
  rw [List.drop_zero] at hitems
  change _ ↔ tokens = items.flatMap Item.tokens
  rw [ofTokens?, ← hitems]
  rcases itemsFrom tokens.toArray tokens.length 0 with e | found
  · simp
  · simp

/-- **The grammar is accepted exactly, and reading is unique.** A list of tokens, whatever tokens are in it,
is read as a program if and only if it is the list of the tokens of that program, and no two programs have
the same tokens. -/
theorem ofTokens?_exact :
    (∀ (placed : List PlacedToken) (p : Program),
        ofTokens? (placed.map (·.token)) = .ok p ↔ placed.map (·.token) = p.tokens) ∧
      Function.Injective Program.tokens := by
  refine ⟨fun placed p => ofTokens?_eq_ok_iff _ p, ?_⟩
  intro p q hsame
  have hp := (ofTokens?_eq_ok_iff p.tokens p).mpr rfl
  have hq := (ofTokens?_eq_ok_iff p.tokens q).mpr hsame
  exact Except.ok.inj (hp.symm.trans hq)

end Program

end RuleText
