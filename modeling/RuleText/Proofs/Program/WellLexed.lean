import RuleText.Proofs.Program.Document

/-!
# Programs that come from a text

Not every program comes from a text: a name with a blank in it, say, is no word, and a regular expression
never ends in a lone backslash. The texts inside a program have to be well-lexed, each in its way: names,
properties and literal patterns are words other than the keyword (`IsWord`), bodies of regular expressions
split into units (`RegexUnits`), and blocks are written between braces (`IsBlock`).

These are conditions on tokens. A lexeme makes a well-lexed token, so all tokens of a text are well-lexed;
and a program is well-lexed if its tokens are. Both halves are local, one token and one construct at a
time.

Main definitions:

- `IsWord`, `RegexUnits`, `IsBlock`: texts inside tokens;
- `Program.WellLexed`, and the same for the parts of a program.

Main statements:

- `Lexeme.wellLexed`: the tokens of a text are well-lexed;
- `Program.wellLexed_of_tokens`: a program is well-lexed if its tokens are;
- `Program.wellLexed_of_ofText?`: so programs that come from a text are.
-/

namespace RuleText

/-! ### Texts inside tokens -/

/-- A word other than the keyword. -/
structure IsWord (text : String) : Prop where
  ne_nil : text.toList ≠ []
  chars : ∀ c ∈ text.toList, isIdentifierChar c = true
  ne_bind : text ≠ "bind"

/-- A text made of units: characters other than a backslash, and backslashes with a character other than a
slash behind them. -/
inductive RegexUnits : List Char → Prop where
  | nil : RegexUnits []
  | plain {c : Char} {text : List Char} (hbackslash : c ≠ '\\') (h : RegexUnits text) :
      RegexUnits (c :: text)
  | escape {c : Char} {text : List Char} (hslash : c ≠ '/') (h : RegexUnits text) :
      RegexUnits ('\\' :: c :: text)

/-- A text between braces. -/
def IsBlock (raw : String) : Prop :=
  ∃ text : List Char, raw = String.ofList ('{' :: text ++ ['}'])

/-- The text inside a token is one that a token of its kind may have. -/
def Token.WellLexed : Token → Prop
  | identifier text => IsWord text
  | regex body => RegexUnits body.toList
  | block raw => IsBlock raw
  | _ => True

theorem RegexBody.units {written body : List Char} (h : RegexBody written body) : RegexUnits body := by
  induction h with
  | nil => exact .nil
  | plain hslash hbackslash _ ih => exact .plain hbackslash ih
  -- what was written with a backslash is read as a slash, which is a unit
  | slash _ ih => exact .plain (by decide) ih
  | escape hslash _ ih => exact .escape hslash ih

/-- A text that is no keyword does not read `bind`. -/
theorem Keyword.ofText?_eq_none_iff (text : String) : ofText? text = none ↔ text ≠ "bind" := by
  rw [ofText?]
  split
  · rename_i htext
    refine ⟨fun h => ?_, fun hne => absurd htext hne⟩
    cases h
  · rename_i htext
    exact ⟨fun _ => htext, fun _ => rfl⟩

/-- **Lexemes make well-lexed tokens.** -/
theorem Lexeme.wellLexed {token : Token} {lexeme : List Char} (h : Lexeme token lexeme) :
    token.WellLexed := by
  cases h with
  | regex hbody =>
    change RegexUnits (String.ofList _).toList
    rw [String.toList_ofList]
    exact hbody.units
  | @block written text htext => exact ⟨text, rfl⟩
  | identifier hne hword hkeyword =>
    refine ⟨?_, ?_, (Keyword.ofText?_eq_none_iff _).mp hkeyword⟩
    · rw [String.toList_ofList]
      exact hne
    · rw [String.toList_ofList]
      exact hword
  | _ => trivial

theorem Splits.wellLexed {text : List Char} {all : List Token} (h : Splits text all) :
    ∀ token ∈ all, token.WellLexed := by
  induction h with
  | nil => nofun
  | cons hlexeme _ _ ih => exact List.forall_mem_cons.mpr ⟨hlexeme.wellLexed, ih⟩

/-- What the grammar sees of a text is well-lexed. -/
theorem Yields.wellLexed {text : List Char} {tokens : List Token} (h : Yields text tokens) :
    ∀ token ∈ tokens, token.WellLexed := by
  obtain ⟨all, hsplits, rfl⟩ := h
  intro token htoken
  exact hsplits.wellLexed token (List.mem_filter.mp htoken).1

/-! ### Parts of programs -/

def Pattern.WellLexed : Pattern → Prop
  | literal text => IsWord text
  | regex text => RegexUnits text.toList

def Condition.WellLexed (c : Condition) : Prop :=
  IsWord c.name ∧ c.pattern.WellLexed

def Statement.WellLexed (s : Statement) : Prop :=
  (∀ c ∈ s.conditions, c.WellLexed) ∧ IsBlock s.output.raw

def Binding.WellLexed (b : Binding) : Prop :=
  IsWord b.name ∧ IsWord b.property

def Item.WellLexed : Item → Prop
  | binding b => b.WellLexed
  | statement s => s.WellLexed

/-- All texts inside a program are ones that a text can be read as. -/
def Program.WellLexed (p : Program) : Prop :=
  ∀ i ∈ p.items, i.WellLexed

theorem Pattern.token_wellLexed_iff (p : Pattern) : p.token.WellLexed ↔ p.WellLexed := by
  cases p with
  | literal text => rfl
  | regex text => rfl

theorem Condition.wellLexed_of_tokens {c : Condition} (h : ∀ token ∈ c.tokens, token.WellLexed) :
    c.WellLexed := by
  have hname := h (.identifier c.name) (by simp [tokens])
  have hpattern := h c.pattern.token (by simp [tokens])
  exact ⟨hname, c.pattern.token_wellLexed_iff.mp hpattern⟩

theorem mem_intercalate {α : Type} {sep list : List α} {lists : List (List α)} {x : α}
    (hlist : list ∈ lists) (hx : x ∈ list) : x ∈ List.intercalate sep lists := by
  induction lists with
  | nil => cases hlist
  | cons first others ih =>
    cases others with
    | nil =>
      obtain rfl := List.mem_singleton.mp hlist
      rw [List.intercalate_singleton]
      exact hx
    | cons second more =>
      rw [List.intercalate_cons_cons]
      rcases List.mem_cons.mp hlist with rfl | hlater
      · exact List.mem_append_left _ (List.mem_append_left _ hx)
      · exact List.mem_append_right _ (ih hlater)

theorem Statement.wellLexed_of_tokens {s : Statement} (h : ∀ token ∈ s.tokens, token.WellLexed) :
    s.WellLexed := by
  refine ⟨?_, ?_⟩
  · intro c hc
    refine Condition.wellLexed_of_tokens fun token htoken => h token ?_
    have hmem : token ∈ List.intercalate [.delimiter .comma] (s.conditions.map Condition.tokens) :=
      mem_intercalate (List.mem_map_of_mem hc) htoken
    exact List.mem_cons_of_mem _ (List.mem_append_left _ hmem)
  · exact h (.block s.output.raw) (by simp [tokens])

theorem Binding.wellLexed_of_tokens {b : Binding} (h : ∀ token ∈ b.tokens, token.WellLexed) :
    b.WellLexed := by
  have hname := h (.identifier b.name) (by simp [tokens])
  have hproperty := h (.identifier b.property) (by simp [tokens])
  exact ⟨hname, hproperty⟩

/-- **A program is well-lexed if its tokens are.** -/
theorem Program.wellLexed_of_tokens {p : Program} (h : ∀ token ∈ p.tokens, token.WellLexed) :
    p.WellLexed := by
  intro i hi
  have hitem : ∀ token ∈ i.tokens, token.WellLexed :=
    fun token htoken => h token (List.mem_flatMap.mpr ⟨i, hi, htoken⟩)
  cases i with
  | binding b => exact Binding.wellLexed_of_tokens hitem
  | statement s => exact Statement.wellLexed_of_tokens hitem

theorem Program.wellLexed_of_ofText? {text : List Char} {p : Program} (h : ofText? text = .ok p) :
    p.WellLexed :=
  wellLexed_of_tokens ((ofText?_eq_ok_iff text p).mp h).wellLexed

end RuleText
