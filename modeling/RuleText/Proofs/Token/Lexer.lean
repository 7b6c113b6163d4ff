import RuleText.Proofs.Text.Cut
import RuleText.Token.Lexer

/-!
# When lexers accept, and when they leave a text to others

One law for each combinator of lexers. A lexer has three ways to answer: it accepts, it refuses and leaves
the text to the lexers behind it, or it refuses for good. The laws say with which answers a combination
accepts, and give a condition under which it leaves a text to others (`Lexer.Leaves`). When a choice
accepts, these two are all that matters.

Main statements:

- `named_eq_ok_iff`, `map_eq_ok_iff`, `andThen_eq_ok_iff`, `fixed_eq_ok_iff`, `run_eq_ok_iff`: acceptance;
- `Leaves.named`, `Leaves.map`, `Leaves.andThen`: texts that are left to others;
- `firstOf_of_leaves`, `exists_of_firstOf`: choices.
-/

namespace RuleText.Lexer

variable {α β : Type}

/-- The lexer refuses a text, but others may still accept it. -/
def Leaves (lexer : Lexer α) (text : List Char) : Prop :=
  ∃ refusal, lexer text = .error refusal ∧ refusal.hard = false

/-! ### Names, functions and sequences -/

theorem named_eq_ok_iff (construct : String) (lexer : Lexer α) (text : List Char) (taken : Taken α) :
    named construct lexer text = .ok taken ↔ lexer text = .ok taken := by
  rw [named]
  rcases lexer text with refusal | found
  · simp
  · rfl

theorem Leaves.named {lexer : Lexer α} {text : List Char} (h : Leaves lexer text)
    (construct : String) : Leaves (Lexer.named construct lexer) text := by
  obtain ⟨refusal, hrefusal, hsoft⟩ := h
  refine ⟨{ refusal with trace := refusal.trace ++ [⟨text, .within construct⟩] }, ?_, hsoft⟩
  rw [Lexer.named, hrefusal]

theorem map_eq_ok_iff (f : α → β) (lexer : Lexer α) (text : List Char) (taken : Taken β) :
    map f lexer text = .ok taken ↔
      ∃ value lexeme rest, lexer text = .ok ⟨value, lexeme, rest⟩ ∧ taken = ⟨f value, lexeme, rest⟩ := by
  rw [map]
  rcases lexer text with refusal | ⟨value, lexeme, rest⟩
  · simp
  · simp only [Except.ok.injEq, Taken.behind, List.nil_append]
    refine ⟨fun h => ⟨value, lexeme, rest, rfl, h.symm⟩, ?_⟩
    rintro ⟨value', lexeme', rest', heq, rfl⟩
    obtain ⟨rfl, rfl, rfl⟩ := Taken.mk.inj heq
    rfl

theorem Leaves.map {lexer : Lexer α} {text : List Char} (h : Leaves lexer text) (f : α → β) :
    Leaves (Lexer.map f lexer) text := by
  obtain ⟨refusal, hrefusal, hsoft⟩ := h
  refine ⟨refusal, ?_, hsoft⟩
  rw [Lexer.map, hrefusal]

theorem andThen_eq_ok_iff (lexer : Lexer α) (next : α → Lexer β) (text : List Char)
    (taken : Taken β) :
    lexer.andThen next text = .ok taken ↔
      ∃ value lexeme behind value' lexeme' rest, lexer text = .ok ⟨value, lexeme, behind⟩ ∧
        next value behind = .ok ⟨value', lexeme', rest⟩ ∧
        taken = ⟨value', lexeme ++ lexeme', rest⟩ := by
  rw [andThen]
  refine ⟨fun h => ?_, ?_⟩
  · rcases hfirst : lexer text with refusal | ⟨value, lexeme, behind⟩
    · rw [hfirst] at h
      cases h
    · rw [hfirst] at h
      simp only at h
      rcases hsecond : next value behind with refusal | ⟨value', lexeme', rest⟩
      · rw [hsecond] at h
        cases h
      · rw [hsecond] at h
        exact ⟨value, lexeme, behind, value', lexeme', rest, rfl, hsecond, (Except.ok.inj h).symm⟩
  · rintro ⟨value, lexeme, behind, value', lexeme', rest, hfirst, hsecond, rfl⟩
    rw [hfirst]
    simp only [hsecond]
    rfl

theorem Leaves.andThen {lexer : Lexer α} {text : List Char} (h : Leaves lexer text)
    (next : α → Lexer β) : Leaves (lexer.andThen next) text := by
  obtain ⟨refusal, hrefusal, hsoft⟩ := h
  refine ⟨refusal, ?_, hsoft⟩
  rw [Lexer.andThen, hrefusal]

theorem taking_eq_ok_iff (take : List Char → Taken α) (text : List Char) (taken : Taken α) :
    taking take text = .ok taken ↔ take text = taken := by
  rw [taking, Except.ok.injEq]

/-! ### Characters -/

theorem fixed_eq_ok_iff (mark text : List Char) (value : Unit) (lexeme rest : List Char) :
    fixed mark text = .ok ⟨value, lexeme, rest⟩ ↔ text = mark ++ rest ∧ lexeme = mark := by
  rw [fixed]
  split
  · rename_i hmark
    obtain ⟨behind, rfl⟩ := List.isPrefixOf_iff_prefix.mp hmark
    simp [eq_comm, and_comm]
  · rename_i hmark
    refine ⟨nofun, ?_⟩
    rintro ⟨rfl, -⟩
    exact absurd (List.isPrefixOf_iff_prefix.mpr (List.prefix_append mark rest)) hmark

theorem leaves_fixed {c : Char} {mark text : List Char} (h : text.head? ≠ some c) :
    Leaves (fixed (c :: mark)) text := by
  refine ⟨⟨false, [⟨text, .fixedText⟩]⟩, ?_, rfl⟩
  rw [fixed]
  split
  · rename_i hmark
    obtain ⟨behind, rfl⟩ := List.isPrefixOf_iff_prefix.mp hmark
    exact absurd rfl h
  · rfl

theorem opening_eq_ok_iff (c : Char) (text : List Char) (value : Unit) (lexeme rest : List Char) :
    opening c text = .ok ⟨value, lexeme, rest⟩ ↔ text = c :: rest ∧ lexeme = [c] := by
  cases text with
  | nil => simp [opening, refuse]
  | cons d behind =>
    rw [opening]
    by_cases hc : c = d
    · subst hc
      simp [and_comm, eq_comm]
    · simp [refuse, hc, Ne.symm hc]

theorem leaves_opening {c : Char} {text : List Char} (h : text.head? ≠ some c) :
    Leaves (opening c) text := by
  refine ⟨⟨false, [⟨text, .expectedChar c⟩]⟩, ?_, rfl⟩
  cases text with
  | nil => rfl
  | cons d behind =>
    have hc : c ≠ d := fun heq => h (congrArg some heq.symm)
    rw [opening, if_neg hc]
    rfl

theorem closing_eq_ok_iff (c : Char) (text : List Char) (value : Unit) (lexeme rest : List Char) :
    closing c text = .ok ⟨value, lexeme, rest⟩ ↔ text = c :: rest ∧ lexeme = [c] := by
  cases text with
  | nil => simp [closing]
  | cons d behind =>
    rw [closing]
    by_cases hc : c = d
    · subst hc
      simp [and_comm, eq_comm]
    · simp [hc, Ne.symm hc]

/-- A longest run. What follows does not go on with it. -/
theorem run_eq_ok_iff (p : Char → Bool) (text value lexeme rest : List Char) :
    run p text = .ok ⟨value, lexeme, rest⟩ ↔
      value = lexeme ∧ lexeme ≠ [] ∧ text = lexeme ++ rest ∧ (∀ c ∈ lexeme, p c = true) ∧
        ∀ c ∈ rest.head?, p c = false := by
  rcases hspan : text.span p with ⟨read, behind⟩
  have htake : takeRun p text = ⟨read, read, behind⟩ := by
    rw [takeRun, hspan]
  rw [← span_eq_iff, hspan, run, htake]
  cases read with
  | nil =>
    refine ⟨nofun, ?_⟩
    rintro ⟨-, hne, heq⟩
    exact absurd (Prod.mk.inj heq).1.symm hne
  | cons c more =>
    change (.ok ⟨c :: more, c :: more, behind⟩ : Except Refusal (Taken (List Char))) = _ ↔ _
    simp only [Except.ok.injEq, Taken.mk.injEq, Prod.mk.injEq]
    refine ⟨?_, ?_⟩
    · rintro ⟨rfl, rfl, rfl⟩
      exact ⟨rfl, List.cons_ne_nil _ _, rfl, rfl⟩
    · rintro ⟨rfl, -, rfl, rfl⟩
      exact ⟨rfl, rfl, rfl⟩

theorem leaves_run {p : Char → Bool} {text : List Char} (h : ∀ c ∈ text.head?, p c = false) :
    Leaves (run p) text := by
  have hspan : text.span p = ([], text) := span_eq_iff.mpr ⟨rfl, nofun, h⟩
  refine ⟨⟨false, [⟨text, .someChars⟩]⟩, ?_, rfl⟩
  rw [run, takeRun, hspan]
  rfl

/-! ### Choices -/

theorem firstOfFrom_cons_eq_ok_iff (trace : List TraceEntry) (lexer : Lexer α)
    (others : List (Lexer α)) (text : List Char) (taken : Taken α) :
    firstOfFrom trace (lexer :: others) text = .ok taken ↔
      lexer text = .ok taken ∨
        ∃ refusal, lexer text = .error refusal ∧ refusal.hard = false ∧
          firstOfFrom refusal.trace others text = .ok taken := by
  rw [firstOfFrom]
  rcases lexer text with refusal | found
  · by_cases hhard : refusal.hard = true
    · simp [hhard]
    · simp [hhard]
  · simp

theorem exists_of_firstOfFrom {trace : List TraceEntry} {lexers : List (Lexer α)} {text : List Char}
    {taken : Taken α} (h : firstOfFrom trace lexers text = .ok taken) :
    ∃ lexer ∈ lexers, lexer text = .ok taken := by
  induction lexers generalizing trace with
  | nil => simp [firstOfFrom] at h
  | cons lexer others ih =>
    rcases (firstOfFrom_cons_eq_ok_iff trace lexer others text taken).mp h with hhere | hlater
    · exact ⟨lexer, List.mem_cons_self, hhere⟩
    · obtain ⟨refusal, -, -, hothers⟩ := hlater
      obtain ⟨other, hmem, hother⟩ := ih hothers
      exact ⟨other, List.mem_cons_of_mem _ hmem, hother⟩

/-- What a choice accepts is accepted by one of its lexers. -/
theorem exists_of_firstOf {lexers : List (Lexer α)} {text : List Char} {taken : Taken α}
    (h : firstOf lexers text = .ok taken) : ∃ lexer ∈ lexers, lexer text = .ok taken :=
  exists_of_firstOfFrom h

/-- A lexer of a choice is heard if those before it leave the text to it. -/
theorem firstOf_of_leaves {before after : List (Lexer α)} {lexer : Lexer α} {text : List Char}
    {taken : Taken α} (hbefore : ∀ other ∈ before, Leaves other text) (h : lexer text = .ok taken) :
    firstOf (before ++ lexer :: after) text = .ok taken := by
  have hfrom : ∀ trace, firstOfFrom trace (before ++ lexer :: after) text = .ok taken := by
    induction before with
    | nil =>
      intro trace
      exact (firstOfFrom_cons_eq_ok_iff trace lexer after text taken).mpr (Or.inl h)
    | cons other others ih =>
      intro trace
      obtain ⟨refusal, hrefusal, hsoft⟩ := hbefore other List.mem_cons_self
      have hothers := ih fun other hmem => hbefore other (List.mem_cons_of_mem _ hmem)
      rw [List.cons_append, firstOfFrom_cons_eq_ok_iff]
      exact Or.inr ⟨refusal, hrefusal, hsoft, hothers refusal.trace⟩
  exact hfrom []

theorem leaves_firstOf {lexers : List (Lexer α)} {text : List Char}
    (h : ∀ lexer ∈ lexers, Leaves lexer text) : Leaves (firstOf lexers) text := by
  have hfrom : ∀ trace, Leaves (firstOfFrom trace lexers) text := by
    induction lexers with
    | nil =>
      intro trace
      exact ⟨_, rfl, rfl⟩
    | cons lexer others ih =>
      intro trace
      obtain ⟨refusal, hrefusal, hsoft⟩ := h lexer List.mem_cons_self
      have hothers := ih fun other hmem => h other (List.mem_cons_of_mem _ hmem)
      obtain ⟨last, hlast, hsoft'⟩ := hothers refusal.trace
      refine ⟨last, ?_, hsoft'⟩
      rw [firstOfFrom, hrefusal]
      simp only [hsoft]
      exact hlast
  exact hfrom []

end RuleText.Lexer
