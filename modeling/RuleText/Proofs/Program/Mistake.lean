import RuleText.Proofs.Grammar.Pinpoint
import RuleText.Proofs.Program.Tokens

/-!
# The mistakes in a document

Why tokens are no program, and which error says so. Items are read one after the other, so the error of a
document is that of the first item that cannot be read. The first token of that item decides between the
alternatives: only a binding begins with the keyword and only a statement with a parenthesis, and where
neither stands no alternative is left.

From there on the constructs pinpoint the first wrong token, a condition or a binding by being a sequence
and the conditions as a list between marks. What has begun in front of that token therefore names the
constructs that the error reports.

Main definitions:

- `Program.Around`: what has begun, with the constructs around the place behind it;
- `Program.Mistake`: what has begun, with the error.

Main statements:

- `Program.pinpoints_binding`, `Program.pinpoints_condition`: constructs that are sequences;
- `Program.statement_mistake`, `Program.item_mistake`: a statement and an item that cannot be read;
- `Program.ofTokens?_eq_error_iff`: the error of a document is that of one item.
-/

namespace RuleText.Program

open RuleText.Parser

/-! ### The constructs -/

instance : Nonempty Condition := ⟨⟨"", .literal ""⟩⟩

instance : Nonempty Pattern := ⟨.literal ""⟩

instance : Nonempty OutputBlock := ⟨⟨""⟩⟩

theorem pinpoints_identifier : identifier.Pinpoints (fun name : String => [.identifier name]) [] := by
  refine Pinpoints.satisfy _ ?_
  rintro token hnone name rfl
  cases hnone

theorem pinpoints_pattern : pattern.Pinpoints (fun p : Pattern => [p.token]) [] := by
  refine Pinpoints.satisfy _ ?_
  rintro token hnone p rfl
  cases p with
  | literal text => cases hnone
  | regex text => cases hnone

theorem pinpoints_outputBlock : outputBlock.Pinpoints (fun b : OutputBlock => [.block b.raw]) [] := by
  refine Pinpoints.satisfy _ ?_
  rintro token hnone b rfl
  cases hnone

theorem pinpoints_delimiter (d : Delimiter) :
    (delimiter d).Pinpoints (fun _ : Unit => [.delimiter d]) [] :=
  (Pinpoints.equal _).map _

theorem pinpoints_binding : binding.Pinpoints Binding.tokens ["binding"] := by
  have htriple := pinpoints_identifier.triple reads_identifier (reads_delimiter .equal)
    (pinpoints_delimiter .equal) pinpoints_identifier
  have hmap := (htriple.preceded (.keyword .bind)).map fun parts => Binding.mk parts.1 parts.2.2
  have hpin := hmap.reindex (fun parts => Binding.mk parts.1 parts.2.2)
    (fun b => (b.name, (), b.property)) (fun _ => rfl) (fun _ => rfl)
  exact hpin.inContext "binding"

theorem pinpoints_condition : condition.Pinpoints Condition.tokens ["condition"] := by
  have htriple := pinpoints_identifier.triple reads_identifier (reads_delimiter .equal)
    (pinpoints_delimiter .equal) pinpoints_pattern
  have hmap := htriple.map fun parts => Condition.mk parts.1 parts.2.2
  have hpin := hmap.reindex (fun parts => Condition.mk parts.1 parts.2.2)
    (fun c => (c.name, (), c.pattern)) (fun _ => rfl) (fun _ => rfl)
  exact hpin.inContext "condition"

/-! ### Where a statement or an item fails -/

/-- The conditions so far, each with a comma behind it. -/
abbrev conditionsBefore (done : List Condition) : List Token :=
  pending (.delimiter .comma) Condition.tokens done

/-- Whole conditions with commas between them. -/
abbrev conditionList (conditions : List Condition) : List Token :=
  List.intercalate [.delimiter .comma] (conditions.map Condition.tokens)

/-- Conditions in their parentheses. -/
abbrev guardTokens (conditions : List Condition) : List Token :=
  listed (.delimiter .openParen) (.delimiter .comma) (.delimiter .closeParen) Condition.tokens conditions

/-- A statement is written as its conditions in parentheses and its block. -/
theorem statement_tokens (s : Statement) :
    s.tokens = guardTokens s.conditions ++ [.block s.output.raw] := by
  rw [Statement.tokens, guardTokens, listed, List.cons_append, List.append_assoc]
  rfl

/-- The constructs around a place where something is missing, from what has begun in front of it. -/
inductive Around : (begun : List Token) → (contexts : List String) → Prop where
  | binding (b : Binding) (n : Nat) : 0 < n → n < 4 → Around (b.tokens.take n) ["binding"]
  /-- The equals sign or the pattern of a condition. -/
  | condition (done : List Condition) (c : Condition) (n : Nat) : 0 < n → n < 3 →
      Around (.delimiter .openParen :: (conditionsBefore done ++ c.tokens.take n))
        ["condition", "statement"]
  /-- The comma or the parenthesis behind some conditions, or the first condition. -/
  | conditions (conditions : List Condition) :
      Around (.delimiter .openParen :: conditionList conditions) ["statement"]
  | block (conditions : List Condition) : Around (guardTokens conditions) ["statement"]

/-- The mistakes that can be made from the beginning of an item on, and their errors. The wrong token is
`next`; there is none at the end of the input. -/
inductive Mistake (pos : Nat) (next : Option Token) (begun : List Token) : ParseError → Prop where
  /-- No item begins here. -/
  | start : begun = [] → Mistake pos next begun { fault := .noAlternative, position := pos }
  /-- What has begun does not go on. -/
  | missing {e : ParseError} {contexts : List String} : Around begun contexts →
      Misses e (pos + begun.length) next contexts → Mistake pos next begun e
  /-- No condition follows a comma. The error is that the comma is no parenthesis. -/
  | comma (done : List Condition) : done ≠ [] →
      begun = .delimiter .openParen :: conditionsBefore done →
      Mistake pos next begun
        { fault := .unexpected "`)`" "`,`"
          position := pos + (conditionsBefore done).length
          contexts := ["statement"] }

theorem Around.ne_nil {begun : List Token} {contexts : List String} (h : Around begun contexts) :
    begun ≠ [] := by
  cases h with
  | binding b n hpos hlt =>
    obtain ⟨n, rfl⟩ := Nat.exists_eq_succ_of_ne_zero (Nat.ne_of_gt hpos)
    exact List.cons_ne_nil _ _
  | condition done c n hpos hlt => exact List.cons_ne_nil _ _
  | conditions list => exact List.cons_ne_nil _ _
  | block list => exact List.cons_ne_nil _ _

/-- The error of a mistake lies behind the start if something has begun there. -/
theorem Mistake.lt_position {pos : Nat} {next : Option Token} {begun : List Token} {e : ParseError}
    (h : Mistake pos next begun e) (hne : begun ≠ []) : pos < e.position := by
  cases h with
  | start hnil => exact absurd hnil hne
  | missing haround hmisses =>
    rw [hmisses.position_eq]
    exact Nat.lt_add_of_pos_right (List.length_pos_iff.mpr hne)
  | comma done hdone hbegun =>
    obtain ⟨first, others, rfl⟩ := List.exists_cons_of_ne_nil hdone
    change pos < pos + (conditionsBefore (first :: others)).length
    rw [add_length_pending]
    exact Nat.lt_succ_of_le (Nat.le_add_right pos _)

/-- **Statements.** Behind the opening parenthesis a statement fails at the first wrong token. -/
theorem statement_mistake {tokens : Array Token} {pos : Nat} {e : ParseError}
    (hopen : tokens[pos]? = some (.delimiter .openParen)) (h : statement tokens pos = .error e) :
    ∃ begun, begun <+: tokens.toList.drop pos ∧
      Stops Statement.tokens begun tokens[pos + begun.length]? ∧ begun ≠ [] ∧
        Mistake pos tokens[pos + begun.length]? begun e := by
  rw [statement, inContext_eq_error_iff] at h
  obtain ⟨inner, hinner, rfl⟩ := h
  rw [map_eq_error_iff, pair, andThen_eq_error_iff] at hinner
  -- tokens that cannot go on as conditions and block cannot go on as a statement
  have hstatement : ∀ {begun next},
      Stops (fun both : List Condition × OutputBlock => guardTokens both.1 ++ [Token.block both.2.raw])
        begun next → Stops Statement.tokens begun next := by
    intro begun next hstops
    exact hstops.reindex (fun both => ⟨both.1, both.2⟩) (fun s => (s.conditions, s.output))
      (fun both => statement_tokens ⟨both.1, both.2⟩) (fun s => (statement_tokens s).symm)
  rcases hinner with hconditions | ⟨behind, values, hvalues, hblock⟩
  · -- the conditions break off: their list is not closed, in one of four ways
    have hrefuses : ∀ (tokens : Array Token) pos, tokens[pos]? = some (.delimiter .closeParen) →
        ∃ e, condition tokens pos = .error e ∧ e.position ≤ pos :=
      fun tokens pos hclosing => condition_refuses hclosing fun name => Token.noConfusion
    obtain ⟨begun, hstands, hstops, hunclosed⟩ := reads_condition.delimitedList_unclosed pinpoints_condition
      (fun _ => List.cons_ne_nil _ _) (by decide) hrefuses hconditions
    refine ⟨begun, hstands, hstatement (hstops.left fun b : OutputBlock => [Token.block b.raw]), ?_⟩
    cases hunclosed with
    | opening _ =>
      have hbegins : [Token.delimiter .openParen] <+: guardTokens [] := List.prefix_append _ _
      exact absurd hbegins (hstops.wrong _ hopen [])
    | inside done begun hne hitem hmisses =>
      -- what is begun of the condition is its name, and perhaps the equals sign
      obtain ⟨c, htake, hlt⟩ := hitem.exists_take
      have haround := Around.condition done c begun.length (List.length_pos_iff.mpr hne) hlt
      rw [← htake] at haround
      exact ⟨List.cons_ne_nil _ _, .missing haround (hmisses.within "statement")⟩
    | behind values hmisses =>
      exact ⟨List.cons_ne_nil _ _, .missing (.conditions values) (hmisses.within "statement")⟩
    | dangling hdone => exact ⟨List.cons_ne_nil _ _, .comma _ hdone rfl⟩
  · -- the conditions are read, and no block stands behind them
    obtain ⟨hstands, rfl⟩ := (reads_conditions tokens pos behind values).mp hvalues
    obtain ⟨begun, hbegun, hstops, hmisses⟩ :=
      pinpoints_outputBlock.map _ tokens _ inner hblock
    -- a block is a single token
    obtain ⟨b, -, hlt⟩ := hstops.exists_take
    obtain rfl : begun = [] := List.length_eq_zero_iff.mp (Nat.lt_one_iff.mp hlt)
    have hstops' := hstatement (hstops.right reads_conditions values)
    rw [List.length_nil, Nat.add_zero] at hstops' hmisses
    rw [List.append_nil] at hstops'
    refine ⟨guardTokens values, hstands, hstops', List.cons_ne_nil _ _, ?_⟩
    exact .missing (.block values) (hmisses.within "statement")

/-! ### Items -/

theorem stops_item_of_binding {begun : List Token} {next : Option Token}
    (h : Stops Binding.tokens begun next) (hne : begun ≠ []) : Stops Item.tokens begun next := by
  refine h.alternative hne Item.binding (fun _ => rfl) ?_
  intro i
  cases i with
  | binding b => exact Or.inl ⟨b, rfl⟩
  | statement s => exact Or.inr ⟨List.cons_ne_nil _ _, fun b => nofun⟩

theorem stops_item_of_statement {begun : List Token} {next : Option Token}
    (h : Stops Statement.tokens begun next) (hne : begun ≠ []) : Stops Item.tokens begun next := by
  refine h.alternative hne Item.statement (fun _ => rfl) ?_
  intro i
  cases i with
  | binding b => exact Or.inr ⟨List.cons_ne_nil _ _, fun s => nofun⟩
  | statement s => exact Or.inl ⟨s, rfl⟩

section Items

variable {tokens : Array Token} {pos : Nat}

theorem binding_refuses (h : tokens[pos]? ≠ some (.keyword .bind)) :
    ∃ e, binding tokens pos = .error e ∧ e.position ≤ pos := by
  have hkeyword := (equal_eq_error_iff (Token.keyword .bind) tokens pos _).mpr ⟨h, rfl⟩
  have hpreceded := (andThen_eq_error_iff _ (fun _ => triple identifier (delimiter .equal) identifier)
    _ _ _).mpr (Or.inl hkeyword)
  have hmap := (map_eq_error_iff (fun parts => Binding.mk parts.1 parts.2.2) _ _ _ _).mpr hpreceded
  exact ⟨_, (inContext_eq_error_iff "binding" _ _ _ _).mpr ⟨_, hmap, rfl⟩, Nat.le_refl pos⟩

/-- An error of the conditions is one of the statement. -/
theorem statement_of_conditions {inner : ParseError} (h : conditions tokens pos = .error inner) :
    statement tokens pos = .error (inner.within "statement") := by
  have hpair := (andThen_eq_error_iff _ (fun list => outputBlock.map fun block => (list, block))
    _ _ _).mpr (Or.inl h)
  have hmap := (map_eq_error_iff (fun parts => Statement.mk parts.1 parts.2) _ _ _ _).mpr hpair
  exact (inContext_eq_error_iff "statement" _ _ _ _).mpr ⟨inner, hmap, rfl⟩

theorem statement_refuses (h : tokens[pos]? ≠ some (.delimiter .openParen)) :
    ∃ e, statement tokens pos = .error e ∧ e.position ≤ pos := by
  have hopening := (unit_equal_eq_error_iff (Token.delimiter .openParen) tokens pos _).mpr ⟨h, rfl⟩
  have hconditions : conditions tokens pos = .error _ :=
    (andThen_eq_error_iff _ _ _ _ _).mpr (Or.inl hopening)
  exact ⟨_, statement_of_conditions hconditions, Nat.le_refl pos⟩

/-- Behind the keyword a binding fails where reading stops. -/
theorem binding_mistake (hbind : tokens[pos]? = some (.keyword .bind)) {e : ParseError}
    (h : binding tokens pos = .error e) :
    ∃ begun, begun <+: tokens.toList.drop pos ∧
      Stops Binding.tokens begun tokens[pos + begun.length]? ∧ begun ≠ [] ∧
        Mistake pos tokens[pos + begun.length]? begun e := by
  obtain ⟨begun, hstands, hstops, hmisses⟩ := pinpoints_binding tokens pos e h
  have hne : begun ≠ [] := by
    rintro rfl
    have hbegins : [Token.keyword .bind] <+: (Binding.mk "" "").tokens := List.prefix_append _ _
    exact hstops.wrong _ hbind ⟨"", ""⟩ hbegins
  obtain ⟨b, htake, hlt⟩ := hstops.exists_take
  have haround := Around.binding b begun.length (List.length_pos_iff.mpr hne) hlt
  rw [← htake] at haround
  exact ⟨begun, hstands, hstops, hne, .missing haround hmisses⟩

/-- The first token decides which alternative of an item counts. -/
theorem item_of_bind (hbind : tokens[pos]? = some (.keyword .bind)) (e : ParseError) :
    item tokens pos = .error e ↔ binding tokens pos = .error e := by
  have hopen : tokens[pos]? ≠ some (.delimiter .openParen) := by
    rw [hbind]
    decide
  obtain ⟨second, hsecond, hle⟩ := statement_refuses hopen
  rw [item, choice_pair_left ((map_eq_error_iff _ _ _ _ _).mpr hsecond) hle, map_eq_error_iff]
  intro e he
  obtain ⟨begun, -, -, hne, hmistake⟩ := binding_mistake hbind ((map_eq_error_iff _ _ _ _ _).mp he)
  exact hmistake.lt_position hne

theorem item_of_open (hopen : tokens[pos]? = some (.delimiter .openParen)) (e : ParseError) :
    item tokens pos = .error e ↔ statement tokens pos = .error e := by
  have hbind : tokens[pos]? ≠ some (.keyword .bind) := by
    rw [hopen]
    decide
  obtain ⟨first, hfirst, hle⟩ := binding_refuses hbind
  rw [item, choice_pair_right ((map_eq_error_iff _ _ _ _ _).mpr hfirst) hle, map_eq_error_iff]
  intro e he
  obtain ⟨begun, -, -, hne, hmistake⟩ := statement_mistake hopen ((map_eq_error_iff _ _ _ _ _).mp he)
  exact hmistake.lt_position hne

theorem item_of_neither (hbind : tokens[pos]? ≠ some (.keyword .bind))
    (hopen : tokens[pos]? ≠ some (.delimiter .openParen)) :
    item tokens pos = .error { fault := .noAlternative, position := pos } := by
  obtain ⟨first, hfirst, hle⟩ := binding_refuses hbind
  obtain ⟨second, hsecond, hle'⟩ := statement_refuses hopen
  exact choice_pair_neither ((map_eq_error_iff _ _ _ _ _).mpr hfirst) hle
    ((map_eq_error_iff _ _ _ _ _).mpr hsecond) hle'

/-- **Items.** -/
theorem item_mistake {e : ParseError} (h : item tokens pos = .error e) :
    ∃ begun, begun <+: tokens.toList.drop pos ∧ Stops Item.tokens begun tokens[pos + begun.length]? ∧
      Mistake pos tokens[pos + begun.length]? begun e := by
  by_cases hbind : tokens[pos]? = some (.keyword .bind)
  · obtain ⟨begun, hstands, hstops, hne, hmistake⟩ :=
      binding_mistake hbind ((item_of_bind hbind e).mp h)
    exact ⟨begun, hstands, stops_item_of_binding hstops hne, hmistake⟩
  · by_cases hopen : tokens[pos]? = some (.delimiter .openParen)
    · obtain ⟨begun, hstands, hstops, hne, hmistake⟩ :=
        statement_mistake hopen ((item_of_open hopen e).mp h)
      exact ⟨begun, hstands, stops_item_of_statement hstops hne, hmistake⟩
    · obtain rfl := Except.error.inj ((item_of_neither hbind hopen).symm.trans h)
      refine ⟨[], List.nil_prefix, ⟨⟨.binding ⟨"", ""⟩, List.nil_prefix⟩, ?_, ?_⟩, .start rfl⟩
      · intro i hi
        exact i.tokens_ne_nil (List.prefix_nil.mp hi)
      · intro token htoken i hi
        cases i with
        | binding b => exact hbind (htoken.trans (congrArg some (List.cons_prefix_cons.mp hi).1))
        | statement s => exact hopen (htoken.trans (congrArg some (List.cons_prefix_cons.mp hi).1))

end Items

/-! ### Programs -/

/-- One round of the loop, for its errors. -/
theorem itemsFrom_succ_eq_error_iff {tokens : Array Token} {pos : Nat} (hmore : pos < tokens.size)
    (fuel : Nat) (e : ParseError) :
    itemsFrom tokens (fuel + 1) pos = .error e ↔
      (∃ inner, item tokens pos = .error inner ∧ e = inner.within "program") ∨
        ∃ first : Item, first.tokens <+: tokens.toList.drop pos ∧
          itemsFrom tokens fuel (pos + first.tokens.length) = .error e := by
  rw [itemsFrom, if_pos hmore]
  rcases hitem : item tokens pos with inner | ⟨next, first⟩
  · -- no item stands here, since the parser would have read it
    have hnone : ∀ first : Item, ¬ first.tokens <+: tokens.toList.drop pos := by
      intro first hfirst
      have hread := (reads_item tokens pos _ first).mpr ⟨hfirst, rfl⟩
      rw [hitem] at hread
      cases hread
    simp [hnone, eq_comm]
  · obtain ⟨hfirst, rfl⟩ := (reads_item tokens pos next first).mp hitem
    have honly : ∀ other : Item, other.tokens <+: tokens.toList.drop pos → other = first :=
      fun other hother => reads_item.eq_of_prefix hother hfirst
    simp only [reduceCtorEq, false_and, exists_false, false_or]
    refine ⟨fun h => ⟨first, hfirst, ?_⟩, ?_⟩
    · rcases hothers : itemsFrom tokens fuel (pos + first.tokens.length) with e' | others
      · rw [hothers] at h
        exact h
      · rw [hothers] at h
        cases h
    · rintro ⟨other, hother, hothers⟩
      obtain rfl := honly other hother
      rw [hothers]

/-- **The loop over the items.** Its error is that of an item behind some items that stand there. -/
theorem itemsFrom_eq_error_iff (tokens : Array Token) {fuel pos : Nat}
    (hfuel : tokens.size - pos ≤ fuel) (e : ParseError) :
    itemsFrom tokens fuel pos = .error e ↔
      ∃ (items : List Item) (inner : ParseError), items.flatMap Item.tokens <+: tokens.toList.drop pos ∧
        pos + (items.flatMap Item.tokens).length < tokens.size ∧
          item tokens (pos + (items.flatMap Item.tokens).length) = .error inner ∧
            e = inner.within "program" := by
  induction fuel generalizing pos with
  | zero =>
    refine ⟨fun hok => ?_, ?_⟩
    · -- without fuel nothing is left to read, and the loop ends well
      cases hok
    · rintro ⟨items, inner, -, hlt, -⟩
      omega
  | succ fuel ih =>
    by_cases hmore : pos < tokens.size
    · -- the error comes in this round, or in a later one behind the first item
      rw [itemsFrom_succ_eq_error_iff hmore]
      refine ⟨?_, ?_⟩
      · rintro (⟨inner, hinner, rfl⟩ | ⟨first, hfirst, hothers⟩)
        · -- no item stands before it
          exact ⟨[], inner, List.nil_prefix, hmore, hinner, rfl⟩
        · have hlength := List.length_pos_iff.mpr first.tokens_ne_nil
          obtain ⟨items, inner, hitems, hlt, hinner, rfl⟩ := (ih (by omega)).mp hothers
          refine ⟨first :: items, inner, ?_⟩
          rw [List.flatMap_cons, append_prefix_drop_iff, List.length_append, ← Nat.add_assoc]
          exact ⟨⟨hfirst, hitems⟩, hlt, hinner, rfl⟩
      · rintro ⟨items, inner, hitems, hlt, hinner, rfl⟩
        -- the items before the error say in which round it comes
        cases items with
        | nil => exact Or.inl ⟨inner, hinner, rfl⟩
        | cons first items =>
          rw [List.flatMap_cons, append_prefix_drop_iff] at hitems
          rw [List.flatMap_cons, List.length_append, ← Nat.add_assoc] at hlt hinner
          have hlength := List.length_pos_iff.mpr first.tokens_ne_nil
          exact Or.inr ⟨first, hitems.1, (ih (by omega)).mpr ⟨items, inner, hitems.2, hlt, hinner, rfl⟩⟩
    · -- behind the last token the loop ends well, too
      rw [itemsFrom, if_neg hmore]
      refine ⟨fun hok => ?_, ?_⟩
      · cases hok
      · rintro ⟨items, inner, -, hlt, -⟩
        omega

/-- **The error of a document** is that of the item behind its whole items. -/
theorem ofTokens?_eq_error_iff (tokens : List Token) (e : ParseError) :
    ofTokens? tokens = .error e ↔
      ∃ (p : Program) (inner : ParseError), p.tokens <+: tokens ∧ p.tokens.length < tokens.length ∧
        item tokens.toArray p.tokens.length = .error inner ∧ e = inner.within "program" := by
  have hfuel : tokens.toArray.size - 0 ≤ tokens.length := Nat.le_of_eq List.size_toArray
  have hitems := itemsFrom_eq_error_iff tokens.toArray hfuel e
  rw [List.drop_zero] at hitems
  have hofTokens : ofTokens? tokens = .error e ↔ itemsFrom tokens.toArray tokens.length 0 = .error e := by
    rw [ofTokens?]
    rcases itemsFrom tokens.toArray tokens.length 0 with e' | items
    · simp
    · simp
  rw [hofTokens, hitems]
  simp only [Nat.zero_add, List.size_toArray]
  refine ⟨?_, ?_⟩
  · rintro ⟨items, inner, h⟩
    exact ⟨⟨items⟩, inner, h⟩
  · rintro ⟨⟨items⟩, inner, h⟩
    exact ⟨items, inner, h⟩

end RuleText.Program
