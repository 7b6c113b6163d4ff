import RuleText.Proofs.Token.Exact
import RuleText.Token.Scanner

/-!
# The ways to split a text into tokens

A text splits into tokens if it is made of lexemes, one behind the other, each at an end of its token
(`Splits`). The scanner finds such a split whenever there is one and nothing else, so there is at most one:
which tokens a text has is a matter of the lexical grammar alone, and places and the bound on the number of
rounds have no part in it.

The loop of the scanner carries what it has read so far. One round puts a token in front of a split of what
is left, and it leaves a shorter text, since no lexeme is empty. That is why the length of the text is
enough rounds.

Main definitions:

- `Splits`: a text as a row of lexemes.

Main statements:

- `tokenize_eq_ok_iff`: the scanner splits a text exactly as the lexical grammar does;
- `Splits.unique`: a text splits in at most one way.
-/

namespace RuleText

/-- A text as a row of lexemes, each with its token. -/
inductive Splits : List Char → List Token → Prop where
  | nil : Splits [] []
  | cons {token : Token} {lexeme rest : List Char} {tokens : List Token} (h : Lexeme token lexeme)
      (hend : token.MayEnd rest) (hrest : Splits rest tokens) : Splits (lexeme ++ rest) (token :: tokens)

/-- What is left behind a lexeme is shorter. -/
theorem Lexeme.length_lt {token : Token} {lexeme : List Char} (h : Lexeme token lexeme)
    (rest : List Char) : rest.length < (lexeme ++ rest).length := by
  have hpos : 0 < lexeme.length := List.length_pos_iff.mpr h.ne_nil
  rw [List.length_append]
  omega

/-! ### The loop -/

/-- What the loop reads splits the text that it started from. -/
theorem splits_of_scanLoop {fuel : Nat} {place : Position} {text : List Char}
    {done placed : List PlacedToken} (hfuel : text.length ≤ fuel)
    (h : (scanLoop fuel place text done).1 = .ok placed) :
    ∃ later, placed = done.reverse ++ later ∧ Splits text (later.map (·.token)) := by
  -- the induction is on the rounds, of which there are no fewer than characters
  induction fuel generalizing place text done with
  | zero =>
    obtain rfl := List.eq_nil_of_length_eq_zero (Nat.le_zero.mp hfuel)
    obtain rfl := Except.ok.inj h
    exact ⟨[], (List.append_nil _).symm, .nil⟩
  | succ fuel ih =>
    cases text with
    | nil =>
      obtain rfl := Except.ok.inj h
      exact ⟨[], (List.append_nil _).symm, .nil⟩
    | cons c more =>
      rw [scanLoop] at h
      cases htoken : lexToken (c :: more) with
      | error refusal =>
        rw [htoken] at h
        cases h
      | ok taken =>
        rw [htoken] at h
        obtain ⟨token, lexeme, rest⟩ := taken
        -- the lexer has taken a lexeme, which is never empty
        obtain ⟨htext, hlexeme, hend⟩ := lexToken_sound htoken
        change c :: more = lexeme ++ rest at htext
        rw [htext] at hfuel ⊢
        -- the round puts its token in front of those of the others
        have hrest : rest.length ≤ fuel := by
          have hshorter := Lexeme.length_lt hlexeme rest
          exact Nat.le_of_lt_succ (Nat.lt_of_lt_of_le hshorter hfuel)
        obtain ⟨later, rfl, hlater⟩ := ih hrest h
        refine ⟨⟨token, place.to (place.advance lexeme)⟩ :: later, ?_, .cons hlexeme hend hlater⟩
        rw [List.reverse_cons, List.append_assoc]
        rfl

/-- The loop reads any split of the text that it starts from. -/
theorem scanLoop_of_splits {text : List Char} {tokens : List Token} (h : Splits text tokens)
    {fuel : Nat} (hfuel : text.length ≤ fuel) (place : Position) (done : List PlacedToken) :
    ∃ later, (scanLoop fuel place text done).1 = .ok (done.reverse ++ later) ∧
      later.map (·.token) = tokens := by
  induction h generalizing fuel place done with
  | nil =>
    refine ⟨[], ?_, rfl⟩
    rw [List.append_nil]
    cases fuel with
    | zero => rfl
    | succ fuel => rfl
  | @cons token lexeme rest tokens hlexeme hend _ ih =>
    have hshorter : rest.length < (lexeme ++ rest).length := hlexeme.length_lt rest
    have htoken : lexToken (lexeme ++ rest) = .ok ⟨token, lexeme, rest⟩ :=
      lexToken_of_takes ⟨rfl, hlexeme, hend⟩
    cases fuel with
    | zero => omega
    | succ fuel =>
      have hrest : rest.length ≤ fuel := by omega
      obtain ⟨later, hlater, rfl⟩ :=
        ih hrest (place.advance lexeme) (⟨token, place.to (place.advance lexeme)⟩ :: done)
      refine ⟨⟨token, place.to (place.advance lexeme)⟩ :: later, ?_, rfl⟩
      rw [List.reverse_cons, List.append_assoc] at hlater
      cases htext : lexeme ++ rest with
      | nil => exact absurd (List.append_eq_nil_iff.mp htext).1 hlexeme.ne_nil
      | cons c more =>
        rw [htext] at htoken
        rw [scanLoop, htoken]
        exact hlater

/-! ### Texts -/

/-- **The scanner splits a text exactly as the lexical grammar does.** -/
theorem tokenize_eq_ok_iff (text : List Char) (tokens : List Token) :
    (∃ placed, tokenize text = .ok placed ∧ placed.map (·.token) = tokens) ↔ Splits text tokens := by
  refine ⟨?_, fun h => ?_⟩
  · rintro ⟨placed, hplaced, rfl⟩
    obtain ⟨later, rfl, hlater⟩ := splits_of_scanLoop (Nat.le_refl _) hplaced
    exact hlater
  · exact scanLoop_of_splits h (Nat.le_refl _) {} []

theorem Splits.unique {text : List Char} {tokens others : List Token} (h : Splits text tokens)
    (h' : Splits text others) : tokens = others := by
  obtain ⟨placed, hplaced, rfl⟩ := (tokenize_eq_ok_iff text tokens).mpr h
  obtain ⟨placed', hplaced', rfl⟩ := (tokenize_eq_ok_iff text others).mpr h'
  rw [hplaced] at hplaced'
  rw [Except.ok.inj hplaced']

/-- The tokens that the grammar sees, as tokens without their places. -/
theorem map_significant (placed : List PlacedToken) :
    (significant placed).map (·.token) = (placed.map (·.token)).filter (!·.isLayout) := by
  rw [significant, List.filter_map]
  rfl

end RuleText
