import RuleText.Proofs.Program.Mistake
import RuleText.Proofs.Program.Spacing

/-!
# The token that a parse error is about

A parse error names a token by its index among those that the grammar sees, and its span is looked up under
that index in the tokens with their places. This module says what is found there. The index never lies behind
the end. It is the end exactly when the error is that the input ends, and only then there is no span. In all
other cases the span is that of the token, so the text that it covers, read by itself, is that one token
again, and it is the token that the error says it has found.

The parser is the one part of it. A mistake is a token that does not go on with what has begun, and what is
in front of it stands in the input; the error about a comma with no condition behind it is the only one that
points back at a token that has begun (`Mistake.blames`). The scanner is the other part, as every token it
finds has a lexeme, which may stand alone (`Lexeme.tokenize`).

Main definitions:

- `ParseError.Blames`: an error fits the tokens that it is about.

Main statements:

- `Program.blames_of_refused`: the error of tokens that are no program;
- `exists_lexeme_of_placeRow`: the lexeme of a token of a row, and what is around it;
- `Program.ofText?_blames`: the error of a document.
-/

namespace RuleText

/-! ### Errors and tokens -/

/-- An error fits the tokens that it is about: it lies at one of them or at their end, it is the end of the
input exactly there, and the token that it has found is the one at its place. -/
structure ParseError.Blames (e : ParseError) (tokens : List Token) : Prop where
  position_le : e.position ≤ tokens.length
  ends_iff : (∃ expected, e.fault = .endOfInput expected) ↔ e.position = tokens.length
  found (expected found : String) : e.fault = .unexpected expected found →
    ∃ token, tokens[e.position]? = some token ∧ found = token.describe

namespace Program

/-- What stands in what has begun, stands in the input. -/
theorem getElem?_of_begun {begun tokens : List Token} {pos i : Nat} {token : Token}
    (hbegun : begun <+: tokens.drop pos) (h : begun[i]? = some token) : tokens[pos + i]? = some token := by
  obtain ⟨rest, hrest⟩ := hbegun
  obtain ⟨hlt, -⟩ := List.getElem?_eq_some_iff.mp h
  rw [← List.getElem?_drop, ← hrest, List.getElem?_append_left hlt]
  exact h

/-- The last comma of conditions that each have one behind them. -/
theorem getElem?_comma {done : List Condition} (hne : done ≠ []) :
    (Token.delimiter .openParen :: conditionsBefore done)[(conditionsBefore done).length]? =
      some (.delimiter .comma) := by
  obtain ⟨first, others, rfl⟩ := List.exists_cons_of_ne_nil hne
  rw [conditionsBefore, ← Parser.intercalate_concat_mark, List.length_append, List.length_singleton,
    List.getElem?_cons_succ]
  exact List.getElem?_concat_length

/-- **The error of a mistake fits the tokens.** -/
theorem Mistake.blames {tokens begun : List Token} {pos : Nat} {e : ParseError} (hpos : pos < tokens.length)
    (hbegun : begun <+: tokens.drop pos) (h : Mistake pos tokens[pos + begun.length]? begun e) :
    e.Blames tokens := by
  have hlength : begun.length ≤ tokens.length - pos := by
    rw [← List.length_drop]
    exact hbegun.length_le
  cases h with
  | start hnil =>
    -- there is a token, but no error says which
    refine ⟨Nat.le_of_lt hpos, ⟨?_, ?_⟩, nofun⟩
    · rintro ⟨expected, hfault⟩
      cases hfault
    · intro hend
      exact absurd hend (Nat.ne_of_lt hpos)
  | missing haround hmisses =>
    obtain ⟨expected, rfl⟩ := hmisses
    have hle : pos + begun.length ≤ tokens.length := by omega
    -- what is missed decides between the end of the input and a wrong token
    cases hnext : tokens[pos + begun.length]? with
    | none =>
      have hend : tokens.length ≤ pos + begun.length := List.getElem?_eq_none_iff.mp hnext
      refine ⟨hle, ⟨fun _ => Nat.le_antisymm hle hend, fun _ => ⟨expected, rfl⟩⟩, ?_⟩
      intro _ _ hfault
      cases hfault
    | some token =>
      obtain ⟨hlt, -⟩ := List.getElem?_eq_some_iff.mp hnext
      refine ⟨hle, ⟨?_, fun hend => absurd hend (Nat.ne_of_lt hlt)⟩, ?_⟩
      · rintro ⟨_, hfault⟩
        cases hfault
      · intro _ _ hfault
        cases hfault
        exact ⟨token, hnext, rfl⟩
  | comma done hdone hlist =>
    -- the comma is the last token of what has begun
    subst hlist
    have hcomma := getElem?_of_begun hbegun (getElem?_comma hdone)
    obtain ⟨hlt, -⟩ := List.getElem?_eq_some_iff.mp hcomma
    refine ⟨Nat.le_of_lt hlt, ⟨?_, fun hend => absurd hend (Nat.ne_of_lt hlt)⟩, ?_⟩
    · rintro ⟨_, hfault⟩
      cases hfault
    · intro _ _ hfault
      cases hfault
      exact ⟨_, hcomma, rfl⟩

/-- **The error of tokens that are no program fits them.** -/
theorem blames_of_refused {tokens : List Token} {e : ParseError} (h : ofTokens? tokens = .error e) :
    e.Blames tokens := by
  obtain ⟨p, inner, -, hlt, hitem, rfl⟩ := (ofTokens?_eq_error_iff tokens e).mp h
  obtain ⟨begun, hbegun, -, hmistake⟩ := item_mistake hitem
  rw [List.getElem?_toArray] at hmistake
  have hblames := Mistake.blames hlt hbegun hmistake
  -- one construct more around the error changes neither its fault nor its place
  exact ⟨hblames.position_le, hblames.ends_iff, hblames.found⟩

end Program

/-! ### Tokens and lexemes -/

/-- A lexeme by itself is its token. -/
theorem Lexeme.tokenize {token : Token} {lexeme : List Char} (h : Lexeme token lexeme) :
    RuleText.tokenize lexeme = .ok [⟨token, ⟨0, byteLength lexeme, 1, 1⟩⟩] := by
  have hrow : IsRow lexeme [⟨token, lexeme⟩] := by
    refine ⟨?_, List.forall_mem_singleton.mpr h, List.isChain_singleton _⟩
    rw [List.flatMap_singleton]
  have hspan : (({} : Position).to (Position.advance {} lexeme)) = ⟨0, byteLength lexeme, 1, 1⟩ := by
    unfold Position.to
    rw [Position.offset_advance, Nat.zero_add]
  rw [tokenize_of_row hrow, placeRow, hspan]
  rfl

/-- **The lexeme of a token of a row, and what is around it.** -/
theorem exists_lexeme_of_placeRow {text : List Char} {row : List Part} (h : IsRow text row)
    {found : PlacedToken} (hfound : found ∈ placeRow {} row) :
    ∃ before lexeme after, text = before ++ (lexeme ++ after) ∧ Lexeme found.token lexeme ∧
      found.span.Covers before lexeme := by
  have hne : ∀ part ∈ row, part.lexeme ≠ [] := fun part hpart => (h.lexemes part hpart).ne_nil
  have htiles := tiles_placeRow [] hne
  rw [Position.behind_nil] at htiles
  obtain ⟨i, hat⟩ := List.mem_iff_getElem?.mp hfound
  -- the token at an index comes from the part at that index
  have htoken : row[i]?.map Part.token = some found.token := by
    rw [← List.getElem?_map, ← htiles.tokens, List.getElem?_map, hat]
    rfl
  obtain ⟨part, hpart, hsame⟩ := Option.map_eq_some_iff.mp htoken
  have hcovers := htiles.spans i part found hpart hat
  obtain ⟨hlt, hget⟩ := List.getElem?_eq_some_iff.mp hpart
  refine ⟨(row.take i).flatMap Part.lexeme, part.lexeme, (row.drop (i + 1)).flatMap Part.lexeme, ?_, ?_, ?_⟩
  · -- the text is the lexemes in front, the lexeme, and the lexemes behind
    have hsplit : row = row.take i ++ part :: row.drop (i + 1) := by
      rw [← hget, List.getElem_cons_drop, List.take_append_drop]
    rw [← List.flatMap_cons, ← List.flatMap_append, ← hsplit]
    exact h.text_eq
  · rw [← hsame]
    exact h.lexemes part (List.mem_of_getElem? hpart)
  · exact hcovers

/-! ### Documents -/

/-- **The span of a parse error is that of the token it is about.** For a document that is refused by the
parser, the error lies at one of the tokens that the grammar sees or at their end. It is at the end exactly if
there is no span, and exactly if it says that the input ends. Otherwise the span is that of the token at this
index: its slice of the text is that token again when it is read by itself, its line and column are those of
the place behind the text in front, and what the error says it has found is the token. -/
theorem Program.ofText?_blames {text : List Char} {e : ParseError} {span : Option Span}
    (h : ofText? text = .error (.parse e span)) :
    ∃ placed, tokenize text = .ok placed ∧
      e.position ≤ (significant placed).length ∧
      (span = none ↔ e.position = (significant placed).length) ∧
      ((∃ expected, e.fault = .endOfInput expected) ↔ e.position = (significant placed).length) ∧
      ∀ place, span = some place →
        ∃ token before after, (significant placed)[e.position]? = some ⟨token, place⟩ ∧
          text = before ++ (place.slice text ++ after) ∧ place.Covers before (place.slice text) ∧
          tokenize (place.slice text) = .ok [⟨token, ⟨0, byteLength (place.slice text), 1, 1⟩⟩] ∧
          ∀ expected found, e.fault = .unexpected expected found → found = token.describe := by
  obtain ⟨row, hrow, hrefused, rfl⟩ := exists_row_of_refused h
  -- the error lies at the first token that is wrong, or behind the last one
  have hblames := blames_of_refused hrefused
  have hle := hblames.position_le
  have hends := hblames.ends_iff
  rw [List.length_map] at hle hends
  refine ⟨placeRow {} row, tokenize_of_row hrow, hle, ?_, hends, ?_⟩
  · -- there is a span if there is a token at the index
    unfold ParseError.span?
    rw [Option.map_eq_none_iff, List.getElem?_eq_none_iff]
    omega
  · intro place hplace
    obtain ⟨⟨token, place⟩, hat, rfl⟩ := Option.map_eq_some_iff.mp hplace
    have hseen : ⟨token, place⟩ ∈ placeRow {} row := (List.mem_filter.mp (List.mem_of_getElem? hat)).1
    obtain ⟨before, lexeme, after, rfl, hlexeme, hcovers⟩ := exists_lexeme_of_placeRow hrow hseen
    -- the lexeme is what the span cuts out of the text, so it is read by itself
    have hslice : place.slice (before ++ (lexeme ++ after)) = lexeme := hcovers.slice_eq after
    refine ⟨token, before, after, hat, ?_, ?_, ?_, ?_⟩
    · rw [hslice]
    · rw [hslice]
      exact hcovers
    · rw [hslice]
      exact hlexeme.tokenize
    · intro expected found hfault
      obtain ⟨named, hnamed, htext⟩ := hblames.found expected found hfault
      rw [List.getElem?_map, hat] at hnamed
      obtain rfl := Option.some.inj hnamed
      exact htext

/-- The comma that no condition follows is blamed, although the parenthesis behind it is what does not go on.
It stands in the second line. -/
theorem Program.ofText?_blames_comma :
    let e : ParseError := ⟨.unexpected "`)`" "`,`", 4, ["statement", "program"]⟩
    ofText? "(a=b\n ,)".toList = .error (.parse e (some ⟨6, 7, 2, 2⟩)) ∧
      ∃ placed, tokenize "(a=b\n ,)".toList = .ok placed ∧ e.position ≤ (significant placed).length ∧
        ∃ token before after, (significant placed)[e.position]? = some ⟨token, ⟨6, 7, 2, 2⟩⟩ ∧
          "(a=b\n ,)".toList = before ++ ([','] ++ after) ∧
          (⟨6, 7, 2, 2⟩ : Span).Covers before [','] ∧
          tokenize [','] = .ok [⟨token, ⟨0, 1, 1, 1⟩⟩] ∧ "`,`" = token.describe := by
  intro e
  have hrefused : ofText? "(a=b\n ,)".toList = .error (.parse e (some ⟨6, 7, 2, 2⟩)) := by
    rfl
  obtain ⟨placed, hplaced, hle, -, -, hspan⟩ := ofText?_blames hrefused
  obtain ⟨token, before, after, hat, htext, hcovers, halone, hfound⟩ := hspan _ rfl
  exact ⟨hrefused, placed, hplaced, hle, token, before, after, hat, htext, hcovers, halone,
    hfound _ _ rfl⟩

end RuleText
