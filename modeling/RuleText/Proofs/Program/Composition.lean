import RuleText.Proofs.Grammar.Shift
import RuleText.Proofs.Program.Mistake
import RuleText.Proofs.Program.Spacing

/-!
# Documents compose

A document may be put under another one, with a line feed between them. The upper one is a program of its
own, so all its items are read first; then the reader stands in front of the lower one and does with it what
it does with it alone. Together they are the items of both, or fail as the lower one does, at the same
token, with all places moved.

The line feed keeps the two apart. Any token may stand before it, also a line comment that the upper document
ends with, and it may stand before any token. The scanner counts on, so the tokens of the lower document get
spans that lie so many bytes and lines further on, while columns begin anew (`Position.advance_lineFeed`).
The parser counts on as well, and does not look back (`movable_item`).

Main definitions:

- `Span.below`: spans of a document that has another one above it.

Main statements:

- `Shows.lines`: what the grammar sees of two documents;
- `Program.ofTokens?_append_of_ok`, `Program.ofTokens?_append_of_error`: tokens behind those of a program;
- `Program.ofText?_lines`: two documents with a line feed between them.
-/

namespace RuleText

/-! ### Places under a document -/

/-- A place when a text and a line feed are put above. -/
def Position.below (above : List Char) (place : Position) : Position where
  offset := place.offset + (byteLength above + 1)
  line := place.line + (1 + above.count '\n')
  column := place.column

/-- A span when a text and a line feed are put above. -/
def Span.below (above : List Char) (span : Span) : Span where
  start := span.start + (byteLength above + 1)
  stop := span.stop + (byteLength above + 1)
  line := span.line + (1 + above.count '\n')
  column := span.column

/-- A token when a text and a line feed are put above. -/
def PlacedToken.below (above : List Char) (found : PlacedToken) : PlacedToken where
  token := found.token
  span := found.span.below above

theorem Position.next_below (above : List Char) (place : Position) (c : Char) :
    (place.below above).next c = (place.next c).below above := by
  unfold next below
  split
  · -- a line feed counts a line and begins the first column, wherever it stands
    simp only [Position.mk.injEq, and_true]
    omega
  · simp only [Position.mk.injEq, and_self, and_true]
    omega

theorem Position.advance_below (above : List Char) (place : Position) (text : List Char) :
    (place.below above).advance text = (place.advance text).below above := by
  induction text generalizing place with
  | nil => rfl
  | cons c rest ih =>
    have hstep (p : Position) : p.advance (c :: rest) = (p.next c).advance rest := rfl
    rw [hstep, hstep, next_below, ih]

/-- Behind a line feed the first column begins. -/
theorem Position.advance_lineFeed (above : List Char) :
    Position.advance {} (above ++ ['\n']) = Position.below above {} := by
  have hbytes : byteLength (above ++ ['\n']) = 0 + (byteLength above + 1) := by
    rw [byteLength_append, Nat.zero_add]
    rfl
  have hlines : 1 + (above ++ ['\n']).count '\n' = 1 + (1 + above.count '\n') := by
    rw [List.count_append, List.count_singleton_self, Nat.add_comm 1 (above.count '\n')]
  rw [← Position.behind_nil, Position.advance_behind, List.nil_append]
  unfold behind below
  rw [hbytes, hlines, lastLine_lineFeed]
  rfl

theorem placeRow_below (above : List Char) (place : Position) (row : List Part) :
    placeRow (place.below above) row = (placeRow place row).map (·.below above) := by
  induction row generalizing place with
  | nil => rfl
  | cons part others ih =>
    rw [placeRow, placeRow, List.map_cons, Position.advance_below, ih]
    rfl

theorem significant_map_below (above : List Char) (placed : List PlacedToken) :
    significant (placed.map (·.below above)) = (significant placed).map (·.below above) := by
  unfold significant
  rw [List.filter_map]
  rfl

theorem map_token_below (above : List Char) (placed : List PlacedToken) :
    (placed.map (·.below above)).map (·.token) = placed.map (·.token) := by
  rw [List.map_map]
  rfl

/-! ### Rows under each other -/

/-- Any token may stand before a line break. -/
theorem Token.mayPrecede_newline (token : Token) : token.MayPrecede .newline :=
  ⟨fun _ => rfl, fun _ => rfl, fun _ => rfl⟩

/-- **What the grammar sees of two documents.** -/
theorem Shows.lines {above below : List Char} {row others : List Part} (habove : IsRow above row)
    (hbelow : IsRow below others) :
    Shows {} (above ++ '\n' :: below)
      (significant (placeRow {} row) ++ (significant (placeRow {} others)).map (·.below above)) := by
  let lineFeed : Part := ⟨.newline, ['\n']⟩
  have htext : (row ++ [lineFeed]).flatMap Part.lexeme = above ++ ['\n'] := by
    rw [List.flatMap_append, ← habove.text_eq]
    rfl
  have hlexemes : ∀ part ∈ row ++ [lineFeed], Lexeme part.token part.lexeme :=
    List.forall_mem_append.mpr ⟨habove.lexemes, List.forall_mem_singleton.mpr Lexeme.lineFeed⟩
  -- whatever the upper document ends with may stand before the line feed
  have hneighbours : (row ++ [lineFeed]).IsChain fun part next => part.token.MayPrecede next.token := by
    refine List.isChain_append.mpr ⟨habove.neighbours, List.isChain_singleton _, ?_⟩
    rintro last - _ ⟨⟩
    exact last.token.mayPrecede_newline
  -- and a line break may stand before anything
  have hlast : ∀ last ∈ (row ++ [lineFeed]).getLast?,
      last.token.isWhitespace = true ∨ last.token.MayEnd below := by
    intro last hmem
    rw [List.getLast?_concat] at hmem
    obtain rfl := Option.some.inj hmem
    exact Or.inr trivial
  have hrest : Shows (Position.advance {} ((row ++ [lineFeed]).flatMap Part.lexeme)) below
      ((significant (placeRow {} others)).map (·.below above)) := by
    rw [htext, Position.advance_lineFeed, ← significant_map_below, ← placeRow_below]
    exact .of_row hbelow _
  have hshows := Shows.row hlexemes hneighbours hlast hrest
  -- the line feed itself is not seen
  have hunseen : significant (placeRow {} (row ++ [lineFeed])) = significant (placeRow {} row) := by
    rw [placeRow_append, significant_append]
    exact List.append_nil _
  rw [htext, hunseen, List.append_assoc] at hshows
  exact hshows

/-! ### Tokens behind a program -/

namespace Program

theorem movable_delimiter (d : Delimiter) : (delimiter d).Movable :=
  (Parser.Movable.equal _).unit

theorem movable_identifier : identifier.Movable :=
  .satisfy _ _

theorem movable_binding : binding.Movable :=
  ((Parser.Movable.equal _).preceded
    (movable_identifier.triple (movable_delimiter .equal) movable_identifier)).map _ |>.inContext _

theorem movable_condition : condition.Movable :=
  (movable_identifier.triple (movable_delimiter .equal) (.satisfy _ _)).map _ |>.inContext _

theorem movable_statement : statement.Movable := by
  have hconditions : conditions.Movable :=
    (movable_delimiter .openParen).delimited (movable_condition.separatedList (movable_delimiter .comma))
      (movable_delimiter .closeParen)
  exact (hconditions.pair (.satisfy _ _)).map _ |>.inContext _

/-- **The parser of an item does not look back.** -/
theorem movable_item : item.Movable :=
  .choice (List.forall_mem_cons.mpr ⟨movable_binding.map _,
    List.forall_mem_singleton.mpr (movable_statement.map _)⟩)

theorem tokens_append (p q : Program) : (⟨p.items ++ q.items⟩ : Program).tokens = p.tokens ++ q.tokens :=
  List.flatMap_append

theorem ofTokens?_append_of_ok {tokens : List Token} {q : Program} (h : ofTokens? tokens = .ok q)
    (p : Program) : ofTokens? (p.tokens ++ tokens) = .ok ⟨p.items ++ q.items⟩ := by
  rw [ofTokens?_eq_ok_iff] at h ⊢
  rw [tokens_append, h]

/-- The items of the program are whole, so the error comes behind them. -/
theorem ofTokens?_append_of_error {tokens : List Token} {e : ParseError} (h : ofTokens? tokens = .error e)
    (p : Program) : ofTokens? (p.tokens ++ tokens) = .error (e.moved p.tokens.length) := by
  rw [ofTokens?_eq_error_iff] at h ⊢
  obtain ⟨q, inner, hwhole, hlt, hitem, rfl⟩ := h
  refine ⟨⟨p.items ++ q.items⟩, inner.moved p.tokens.length, ?_, ?_, ?_, rfl⟩
  · rw [tokens_append]
    exact (List.prefix_append_right_inj p.tokens).mpr hwhole
  · -- something is left behind the items of both
    rw [tokens_append, List.length_append, List.length_append]
    omega
  · have hmoved := movable_item p.tokens.toArray tokens.toArray q.tokens.length
    rw [List.append_toArray, List.size_toArray, hitem] at hmoved
    rw [tokens_append, List.length_append]
    exact hmoved

end Program

/-! ### Documents -/

/-- **Documents compose.** A text under a program, with a line feed between them, is read as it is alone. If
it is a program, the items of both are a program. If it is refused by the parser, the two are refused for the
same reason, at the token that lies as many tokens further on as the program has, and the span lies below
the program. -/
theorem Program.ofText?_lines {above : List Char} {p : Program} (h : ofText? above = .ok p)
    (below : List Char) :
    ∃ placed, tokenize above = .ok placed ∧
      (∀ q, ofText? below = .ok q → ofText? (above ++ '\n' :: below) = .ok ⟨p.items ++ q.items⟩) ∧
      ∀ e span, ofText? below = .error (.parse e span) →
        ofText? (above ++ '\n' :: below) =
          .error (.parse { e with position := (significant placed).length + e.position }
            (span.map (·.below above))) := by
  obtain ⟨row, hrow, hparsed⟩ := exists_row_of_parsed h
  have htokens := (ofTokens?_eq_ok_iff _ p).mp hparsed
  have hlength : p.tokens.length = (significant (placeRow {} row)).length := by
    rw [← htokens, List.length_map]
  refine ⟨placeRow {} row, tokenize_of_row hrow, ?_, ?_⟩
  · -- the tokens of both programs, one behind the other
    intro q hq
    obtain ⟨others, hothers, hread⟩ := exists_row_of_parsed hq
    obtain ⟨placed, hplaced, hseen⟩ := (Shows.lines hrow hothers).tokenize
    refine ofText?_of_parsed hplaced ?_
    rw [hseen, List.map_append, map_token_below, htokens]
    exact ofTokens?_append_of_ok hread p
  · -- the error of the lower tokens, behind those of the program
    intro e span he
    obtain ⟨others, hothers, hrefused, rfl⟩ := exists_row_of_refused he
    obtain ⟨placed, hplaced, hseen⟩ := (Shows.lines hrow hothers).tokenize
    have hmoved : ofTokens? ((significant placed).map (·.token)) = .error (e.moved p.tokens.length) := by
      rw [hseen, List.map_append, map_token_below, htokens]
      exact ofTokens?_append_of_error hrefused p
    rw [hlength] at hmoved
    rw [ofText?_of_refused hplaced hmoved]
    -- the token that the error points at is one of those below
    have hspan : (e.moved (significant (placeRow {} row)).length).span? (significant placed) =
        (e.span? (significant (placeRow {} others))).map (·.below above) := by
      unfold ParseError.span? ParseError.moved
      rw [hseen, List.getElem?_append_right (Nat.le_add_right _ _), Nat.add_sub_cancel_left,
        List.getElem?_map, Option.map_map, Option.map_map]
      rfl
    rw [hspan]
    rfl

/-- The line feed ends the comment of the upper document. The parenthesis is the sixth token then, and stands
in the second line. -/
theorem Program.ofText?_lines_comment :
    let p : Program := ⟨[.binding ⟨"a", "b"⟩]⟩
    let e : ParseError := ⟨.unexpected "identifier" "`)`", 1, ["binding", "program"]⟩
    ofText? "bind a=b//)".toList = .ok p ∧
      ofText? "bind )".toList = .error (.parse e (some ⟨5, 6, 1, 6⟩)) ∧
      ofText? ("bind a=b//)".toList ++ '\n' :: "bind )".toList) =
        .error (.parse { e with position := 5 } (some ⟨17, 18, 2, 6⟩)) ∧
      ofText? ("bind a=b//)".toList ++ '\n' :: "bind a=b//)".toList) = .ok ⟨p.items ++ p.items⟩ := by
  intro p e
  have hparsed : ofText? "bind a=b//)".toList = .ok p := by
    rfl
  have hrefused : ofText? "bind )".toList = .error (.parse e (some ⟨5, 6, 1, 6⟩)) := by
    rfl
  obtain ⟨placed, hplaced, -, herror⟩ := ofText?_lines hparsed "bind )".toList
  obtain ⟨-, -, hok, -⟩ := ofText?_lines hparsed "bind a=b//)".toList
  have hlength : (significant placed).length = 4 := by
    cases hplaced
    decide
  have htogether := herror e _ hrefused
  rw [hlength] at htogether
  exact ⟨hparsed, hrefused, htogether, hok p hparsed⟩

end RuleText
