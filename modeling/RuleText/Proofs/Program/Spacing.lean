import RuleText.Program.Grammar
import RuleText.Proofs.Token.Tiling

/-!
# Layout between tokens means nothing

White space, line breaks and comments may be put between any two tokens of a document. The document is then
read in the same way: it has the same tokens for the grammar to see, hence the same program, or the same
parse error at the same token. Only spans move, namely those behind the place by what has been put in.

There are two exceptions, and both are about line comments. Behind a line comment an insertion would
become part of the comment; and an insertion that ends in a line comment would swallow what comes after it.
Everywhere else the lexemes around the place stay what they are, but for one case: a run of blanks that
comes to stand next to another one joins it. The two make one token of layout instead of two, which the
grammar does not see either.

The argument goes from the back. `Shows` says what the grammar sees of a text that begins at a place, with
the spans. A part in front of a text puts its token in front of what is seen (`Shows.part`); a run of blanks
may be put in front of any text, because it joins the blanks there, if there are any (`Shows.blanks`). So a
whole row may be put in front of a text if its last part is a run of blanks or may end there (`Shows.row`).
The insertion is put in front of the text behind it in this way, and then the text before it in front of
both.

Main definitions:

- `Shows`: what the grammar sees of a text, and where;
- `Span.MovedBy`: the spans of a text in which something has been inserted.

Main statements:

- `Shows.row`: a row in front of a text;
- `Shows.insert`: what the grammar sees after an insertion;
- `Program.ofText?_insert`: a document with layout inserted between two tokens.
-/

namespace RuleText

/-! ### What the grammar sees -/

/-- What the grammar sees of a text that begins at a place. -/
def Shows (place : Position) (text : List Char) (seen : List PlacedToken) : Prop :=
  ∃ row, IsRow text row ∧ significant (placeRow place row) = seen

theorem significant_append (placed others : List PlacedToken) :
    significant (placed ++ others) = significant placed ++ significant others :=
  List.filter_append placed others

theorem significant_cons (first : PlacedToken) (others : List PlacedToken) :
    significant (first :: others) = significant [first] ++ significant others :=
  significant_append [first] others

/-- What holds of the tokens of a row holds of them at their places. -/
theorem forall_token_placeRow_iff (P : Token → Prop) (place : Position) (row : List Part) :
    (∀ found ∈ placeRow place row, P found.token) ↔ ∀ part ∈ row, P part.token := by
  have hmap := map_token_placeRow place row
  have hplaced := List.forall_mem_map (f := PlacedToken.token) (l := placeRow place row) (P := P)
  have hrow := List.forall_mem_map (f := Part.token) (l := row) (P := P)
  rw [← hplaced, ← hrow, hmap]

/-- A row of layout shows nothing. -/
theorem significant_eq_nil {placed : List PlacedToken}
    (h : ∀ found ∈ placed, found.token.isLayout = true) : significant placed = [] := by
  unfold significant
  rw [List.filter_eq_nil_iff]
  intro found hfound
  rw [h found hfound]
  decide

/-- Nor does a run of blanks. -/
theorem significant_blanks {token : Token} (h : token.isWhitespace = true) (span : Span) :
    significant [⟨token, span⟩] = [] := by
  refine significant_eq_nil (List.forall_mem_singleton.mpr ?_)
  rw [Token.isLayout, h]
  rfl

theorem Shows.of_row {text : List Char} {row : List Part} (h : IsRow text row) (place : Position) :
    Shows place text (significant (placeRow place row)) :=
  ⟨row, h, rfl⟩

theorem Shows.tokenize {text : List Char} {seen : List PlacedToken} (h : Shows {} text seen) :
    ∃ placed, RuleText.tokenize text = .ok placed ∧ significant placed = seen := by
  obtain ⟨row, hrow, hseen⟩ := h
  exact ⟨placeRow {} row, tokenize_of_row hrow, hseen⟩

/-! ### Parts in front of a text -/

section Front

variable {place : Position} {token : Token} {lexeme rest : List Char} {seen : List PlacedToken}

/-- A part in front of a text at which it may end. -/
theorem Shows.part (h : Shows (place.advance lexeme) rest seen) (hlexeme : Lexeme token lexeme)
    (hend : token.MayEnd rest) :
    Shows place (lexeme ++ rest) (significant [⟨token, place.to (place.advance lexeme)⟩] ++ seen) := by
  obtain ⟨row, hrow, rfl⟩ := h
  refine ⟨⟨token, lexeme⟩ :: row, isRow_cons_iff.mpr ⟨rest, rfl, hlexeme, hrow, hend⟩, ?_⟩
  rw [placeRow, significant_cons]

/-- A run of blanks may stand before anything but another one. -/
theorem Token.MayPrecede.of_whitespace {next : Token} (htoken : token.isWhitespace = true)
    (hnext : next.isWhitespace = false) : token.MayPrecede next := by
  cases token with
  | whitespace text => exact ⟨fun _ => hnext, nofun, nofun⟩
  | _ => cases htoken

theorem Lexeme.blanks (h : Lexeme token lexeme) (hblank : token.isWhitespace = true) :
    lexeme ≠ [] ∧ ∀ c ∈ lexeme, isBlank c = true := by
  cases h with
  | whitespace hne hblanks => exact ⟨hne, hblanks⟩
  | _ => cases hblank

/-- A run of blanks in front of any text. Where the text begins with blanks, they make one run. -/
theorem Shows.blanks (h : Shows (place.advance lexeme) rest seen) (hlexeme : Lexeme token lexeme)
    (hblank : token.isWhitespace = true) : Shows place (lexeme ++ rest) seen := by
  -- in front of anything else the run is a part of its own, which is not seen
  have halone (hend : token.MayEnd rest) : Shows place (lexeme ++ rest) seen := by
    have hpart := h.part hlexeme hend
    rw [significant_blanks hblank, List.nil_append] at hpart
    exact hpart
  obtain ⟨row, hrow, hseen⟩ := h
  -- what the run stands in front of depends on the first part behind it
  cases row with
  | nil =>
    obtain rfl : rest = [] := hrow.text_eq
    exact halone token.mayEnd_nil
  | cons next others =>
    obtain ⟨behind, rfl, hnext, hothers, hend⟩ := isRow_cons_iff.mp hrow
    cases hkind : next.token.isWhitespace with
    | false =>
      exact halone ((hnext.mayEnd_iff token behind).mpr (.of_whitespace hblank hkind))
    | true =>
      -- another run of blanks, with which this one merges
      obtain ⟨hne, hblanks⟩ := hlexeme.blanks hblank
      obtain ⟨-, hmore⟩ := hnext.blanks hkind
      have hjoined : Lexeme (.whitespace (String.ofList (lexeme ++ next.lexeme)))
          (lexeme ++ next.lexeme) :=
        .whitespace (List.append_ne_nil_of_left_ne_nil hne _) fun c hc =>
          (List.mem_append.mp hc).elim (hblanks c) (hmore c)
      have hend' : (Token.whitespace (String.ofList (lexeme ++ next.lexeme))).MayEnd behind := by
        cases hnextToken : next.token with
        | whitespace text =>
          rw [hnextToken] at hend
          exact hend
        | _ =>
          rw [hnextToken] at hkind
          cases hkind
      -- the two runs are one run, and the parts behind it are where they were
      rw [← List.append_assoc]
      refine ⟨⟨.whitespace (String.ofList (lexeme ++ next.lexeme)), lexeme ++ next.lexeme⟩ :: others,
        isRow_cons_iff.mpr ⟨behind, rfl, hjoined, hothers, hend'⟩, ?_⟩
      rw [placeRow, significant_cons, significant_blanks hkind] at hseen
      rw [placeRow, significant_cons, significant_blanks rfl, Position.advance_append]
      exact hseen

end Front

/-- **A row in front of a text.** Its last part is a run of blanks, or may end at the text. -/
theorem Shows.row {place : Position} {front : List Part} {rest : List Char} {seen : List PlacedToken}
    (hlexemes : ∀ part ∈ front, Lexeme part.token part.lexeme)
    (hneighbours : front.IsChain fun part next => part.token.MayPrecede next.token)
    (hlast : ∀ last ∈ front.getLast?, last.token.isWhitespace = true ∨ last.token.MayEnd rest)
    (h : Shows (place.advance (front.flatMap Part.lexeme)) rest seen) :
    Shows place (front.flatMap Part.lexeme ++ rest) (significant (placeRow place front) ++ seen) := by
  induction front generalizing place with
  | nil => exact h
  | cons part others ih =>
    obtain ⟨hpart, hothers⟩ := List.forall_mem_cons.mp hlexemes
    obtain ⟨hmay, hchain⟩ := List.isChain_cons.mp hneighbours
    rw [List.flatMap_cons, Position.advance_append] at h
    rw [List.flatMap_cons, List.append_assoc, placeRow, significant_cons, List.append_assoc]
    cases others with
    | nil =>
      rcases hlast part rfl with hblank | hend
      · rw [significant_blanks hblank]
        exact Shows.blanks h hpart hblank
      · exact Shows.part h hpart hend
    | cons next more =>
      -- whatever the row is put in front of, the part stands before the next one
      have hnext : Lexeme next.token next.lexeme := hothers next List.mem_cons_self
      have hlast' : ∀ last ∈ (next :: more).getLast?,
          last.token.isWhitespace = true ∨ last.token.MayEnd rest := by
        intro last hmem
        exact hlast last (by rw [List.getLast?_cons_cons]; exact hmem)
      refine Shows.part (ih hothers hchain hlast' h) hpart ?_
      rw [List.flatMap_cons, List.append_assoc, hnext.mayEnd_iff]
      exact hmay next rfl

/-! ### Insertions -/

/-- Layout other than a line comment ends by itself, or is a run of blanks. -/
theorem Token.mayEnd_of_layout {token : Token} (hlayout : token.isLayout = true)
    (hline : token.isLineComment = false) (rest : List Char) :
    token.isWhitespace = true ∨ token.MayEnd rest := by
  cases token with
  | whitespace text => exact Or.inl rfl
  | newline => exact Or.inr trivial
  | comment style content =>
    cases style with
    | line => cases hline
    | block => exact Or.inr trivial
  | _ => cases hlayout

/-- Any token but a run of blanks and a line comment may stand before layout. -/
theorem Token.MayPrecede.of_layout {token next : Token} (hline : token.isLineComment = false)
    (hnext : next.isLayout = true) : token.isWhitespace = true ∨ token.MayPrecede next := by
  cases hblank : token.isWhitespace with
  | true => exact Or.inl rfl
  | false =>
    refine Or.inr ⟨fun h => ?_, fun _ => ?_, fun h => ?_⟩
    · rw [hblank] at h
      cases h
    · -- no layout is a word
      cases next <;> first | rfl | cases hnext
    · rw [hline] at h
      cases h

/-- **What the grammar sees after an insertion.** The tokens in front of it are where they were, and those
behind it come where the insertion ends. -/
theorem Shows.insert {text gap : List Char} {front back middle : List Part}
    (hrow : IsRow text (front ++ back))
    (hend : ∀ last ∈ front.getLast?, last.token.isLineComment = false) (hgap : IsRow gap middle)
    (hlayout : ∀ part ∈ middle, part.token.isLayout = true)
    (hopen : ∀ last ∈ middle.getLast?, last.token.isLineComment = false) (place : Position) :
    Shows place (front.flatMap Part.lexeme ++ (gap ++ back.flatMap Part.lexeme))
      (significant (placeRow place front) ++
        significant (placeRow (place.advance (front.flatMap Part.lexeme ++ gap)) back)) := by
  obtain ⟨hfront, hback, hborder⟩ := hrow.of_append
  obtain rfl : gap = middle.flatMap Part.lexeme := hgap.text_eq
  rw [Position.advance_append]
  -- the insertion in front of what is behind it
  have hclosed : ∀ last ∈ middle.getLast?,
      last.token.isWhitespace = true ∨ last.token.MayEnd (back.flatMap Part.lexeme) := by
    intro last hlast
    have hmem : last ∈ middle := List.mem_of_getLast? hlast
    exact Token.mayEnd_of_layout (hlayout last hmem) (hopen last hlast) _
  have hmiddle : Shows (place.advance (front.flatMap Part.lexeme)) _ _ :=
    Shows.row hgap.lexemes hgap.neighbours hclosed (.of_row hback _)
  have hunseen := (forall_token_placeRow_iff (·.isLayout = true)
    (place.advance (front.flatMap Part.lexeme)) middle).mpr hlayout
  rw [significant_eq_nil hunseen, List.nil_append] at hmiddle
  -- and what is in front of it before both
  refine Shows.row hfront.lexemes hfront.neighbours ?_ hmiddle
  intro last hlast
  cases middle with
  | nil => exact Or.inr (hborder last hlast)
  | cons first more =>
    have hfirst : Lexeme first.token first.lexeme := hgap.lexemes first List.mem_cons_self
    rw [List.flatMap_cons, List.append_assoc, hfirst.mayEnd_iff]
    exact Token.MayPrecede.of_layout (hend last hlast) (hlayout first List.mem_cons_self)

/-! ### Where the tokens come to stand -/

/-- The spans of a text before and after an insertion at a byte offset. In front of it nothing moves, and
behind it everything moves by the bytes and the lines of the insertion. -/
def Span.MovedBy (gap : List Char) (edge : Nat) (span moved : Span) : Prop :=
  if span.start < edge then moved = span
  else
    moved.start = span.start + byteLength gap ∧ moved.stop = span.stop + byteLength gap ∧
      moved.line = span.line + gap.count '\n'

/-- A token before and after an insertion. -/
structure PlacedToken.MovedBy (gap : List Char) (edge : Nat) (found moved : PlacedToken) : Prop where
  token : moved.token = found.token
  span : found.span.MovedBy gap edge moved.span

/-- The tokens of a row begin before its end. -/
theorem start_lt_of_mem_placeRow {place : Position} {row : List Part}
    (h : ∀ part ∈ row, part.lexeme ≠ []) {found : PlacedToken} (hfound : found ∈ placeRow place row) :
    found.span.start < (place.advance (row.flatMap Part.lexeme)).offset := by
  induction row generalizing place with
  | nil => cases hfound
  | cons part others ih =>
    obtain ⟨hpart, hothers⟩ := List.forall_mem_cons.mp h
    have hbytes : 0 < byteLength part.lexeme := byteLength_pos hpart
    rw [List.flatMap_cons, Position.advance_append]
    rcases List.mem_cons.mp hfound with rfl | hlater
    · have hstart : (place.to (place.advance part.lexeme)).start = place.offset := rfl
      rw [Position.offset_advance, Position.offset_advance, hstart]
      omega
    · exact ih hothers hlater

/-- A row behind a text, and the same row behind the text with something inserted. -/
theorem forall₂_movedBy_placeRow (before gap later : List Char) (row : List Part) :
    List.Forall₂ (PlacedToken.MovedBy gap (byteLength before))
      (placeRow (.behind (before ++ later)) row) (placeRow (.behind (before ++ gap ++ later)) row) := by
  induction row generalizing later with
  | nil => exact .nil
  | cons part others ih =>
    have hrest := ih (later ++ part.lexeme)
    rw [← List.append_assoc, ← List.append_assoc] at hrest
    rw [placeRow, placeRow, Position.advance_behind, Position.advance_behind]
    refine .cons ⟨rfl, ?_⟩ hrest
    -- the span is counted on the text in front of it, which has grown by the insertion
    have hbehind : ¬ byteLength (before ++ later) < byteLength before := by
      rw [byteLength_append]
      omega
    have hbytes (text : List Char) : byteLength (before ++ gap ++ text) =
        byteLength (before ++ text) + byteLength gap := by
      rw [byteLength_append, byteLength_append, byteLength_append]
      omega
    have hlines : 1 + (before ++ gap ++ later).count '\n' =
        1 + (before ++ later).count '\n' + gap.count '\n' := by
      rw [List.count_append, List.count_append, List.count_append]
      omega
    unfold Span.MovedBy
    rw [if_neg (show ¬ (Position.to _ _).start < _ from hbehind)]
    refine ⟨hbytes later, ?_, hlines⟩
    change byteLength (before ++ gap ++ later ++ part.lexeme) = _
    rw [List.append_assoc, hbytes, ← List.append_assoc]
    rfl

theorem forall₂_movedBy_significant {front back : List Part} (gap : List Char)
    (h : ∀ part ∈ front, part.lexeme ≠ []) {before : List Char}
    (hbefore : before = front.flatMap Part.lexeme) :
    List.Forall₂ (PlacedToken.MovedBy gap (byteLength before))
      (significant (placeRow {} (front ++ back)))
      (significant (placeRow {} front) ++
        significant (placeRow (Position.advance {} (before ++ gap)) back)) := by
  have hstay : List.Forall₂ (PlacedToken.MovedBy gap (byteLength before)) (placeRow {} front)
      (placeRow {} front) := by
    refine List.forall₂_same.mpr fun found hfound => ⟨rfl, ?_⟩
    have hstart := start_lt_of_mem_placeRow h hfound
    rw [Position.offset_advance, Nat.zero_add, ← hbefore] at hstart
    unfold Span.MovedBy
    rw [if_pos hstart]
  have hmove := forall₂_movedBy_placeRow before gap [] back
  rw [List.append_nil, List.append_nil] at hmove
  -- the tokens are the same, so the same ones are layout
  have hkind : Relator.LiftFun (PlacedToken.MovedBy gap (byteLength before)) (· ↔ ·)
      (fun found => (!found.token.isLayout) = true) (fun found => (!found.token.isLayout) = true) := by
    intro found moved hmoved
    change (!found.token.isLayout) = true ↔ (!moved.token.isLayout) = true
    rw [hmoved.token]
  rw [← significant_append, placeRow_append, ← hbefore, ← Position.behind_nil,
    Position.advance_behind, Position.advance_behind]
  exact List.rel_filter hkind (List.rel_append hstay hmove)

theorem forall₂_getElem? {α β : Type} {R : α → β → Prop} {these : List α} {those : List β}
    (h : List.Forall₂ R these those) (i : Nat) : Option.Rel R these[i]? those[i]? := by
  induction h generalizing i with
  | nil => exact .none
  | cons hfirst _ ih =>
    cases i with
    | zero => exact .some hfirst
    | succ i => exact ih i

/-! ### Documents -/

section OfTokens

variable {text : List Char} {placed : List PlacedToken} (h : tokenize text = .ok placed)

include h

theorem Program.ofText?_of_parsed {p : Program}
    (hparse : ofTokens? ((significant placed).map (·.token)) = .ok p) : ofText? text = .ok p := by
  rw [ofText?, h]
  simp only [hparse]

theorem Program.ofText?_of_refused {e : ParseError}
    (hparse : ofTokens? ((significant placed).map (·.token)) = .error e) :
    ofText? text = .error (.parse e (e.span? (significant placed))) := by
  rw [ofText?, h]
  simp only [hparse]

end OfTokens

/-- A text that the scanner does not refuse is a row. -/
theorem Program.exists_row_of_scanned {text : List Char} (h : ∀ e, ofText? text ≠ .error (.scan e)) :
    ∃ row, IsRow text row := by
  cases htokens : RuleText.tokenize text with
  | error e =>
    refine absurd ?_ (h e)
    rw [ofText?, htokens]
  | ok placed =>
    obtain ⟨row, hrow, -⟩ := exists_row_of_tokenize htokens
    exact ⟨row, hrow⟩

theorem Program.exists_row_of_parsed {text : List Char} {p : Program} (h : ofText? text = .ok p) :
    ∃ row, IsRow text row ∧ ofTokens? ((significant (placeRow {} row)).map (·.token)) = .ok p := by
  obtain ⟨row, hrow⟩ := exists_row_of_scanned fun e => by rw [h]; nofun
  refine ⟨row, hrow, ?_⟩
  cases hparse : ofTokens? ((significant (placeRow {} row)).map (·.token)) with
  | error e =>
    rw [ofText?_of_refused (tokenize_of_row hrow) hparse] at h
    cases h
  | ok q =>
    rw [ofText?_of_parsed (tokenize_of_row hrow) hparse] at h
    exact congrArg Except.ok (Except.ok.inj h)

theorem Program.exists_row_of_refused {text : List Char} {e : ParseError} {span : Option Span}
    (h : ofText? text = .error (.parse e span)) :
    ∃ row, IsRow text row ∧ ofTokens? ((significant (placeRow {} row)).map (·.token)) = .error e ∧
      span = e.span? (significant (placeRow {} row)) := by
  obtain ⟨row, hrow⟩ := exists_row_of_scanned fun e => by rw [h]; nofun
  refine ⟨row, hrow, ?_⟩
  cases hparse : ofTokens? ((significant (placeRow {} row)).map (·.token)) with
  | error other =>
    rw [ofText?_of_refused (tokenize_of_row hrow) hparse] at h
    cases h
    exact ⟨rfl, rfl⟩
  | ok q =>
    rw [ofText?_of_parsed (tokenize_of_row hrow) hparse] at h
    cases h

/-- **Layout between two tokens means nothing.** A document is a row of parts, and something is put in
between two of them: a text that splits into layout by itself and does not end in a line comment, at a place
that is not the end of one. The document then has the same tokens for the grammar to see. It is the same
program; or the parse error is the same, at the same token, and its span moves with the token. -/
theorem Program.ofText?_insert {text gap : List Char} {front back : List Part}
    {blank : List PlacedToken} (hrow : IsRow text (front ++ back))
    (hend : ∀ last ∈ front.getLast?, last.token.isLineComment = false)
    (hgap : tokenize gap = .ok blank) (hlayout : ∀ found ∈ blank, found.token.isLayout = true)
    (hopen : ∀ last ∈ blank.getLast?, last.token.isLineComment = false) :
    let before := front.flatMap Part.lexeme
    let after := back.flatMap Part.lexeme
    text = before ++ after ∧
      ∃ placed moved, tokenize text = .ok placed ∧ placed.map (·.token) = (front ++ back).map Part.token ∧
        tokenize (before ++ (gap ++ after)) = .ok moved ∧
        List.Forall₂ (PlacedToken.MovedBy gap (byteLength before)) (significant placed)
          (significant moved) ∧
        match ofText? text with
        | .ok p => ofText? (before ++ (gap ++ after)) = .ok p
        | .error (.scan _) => False
        | .error (.parse e span) =>
          ∃ span', ofText? (before ++ (gap ++ after)) = .error (.parse e span') ∧
            Option.Rel (Span.MovedBy gap (byteLength before)) span span' := by
  intro before after
  have htext : text = before ++ after := by
    rw [hrow.text_eq, List.flatMap_append]
  obtain ⟨middle, hmiddle, rfl⟩ := exists_row_of_tokenize hgap
  -- the tokens of the insertion are those of its row
  have hlayout' := (forall_token_placeRow_iff (·.isLayout = true) {} middle).mp hlayout
  -- neither ends in a comment that would take in what comes behind the gap
  have hopen' : ∀ last ∈ middle.getLast?, last.token.isLineComment = false := by
    intro last hlast
    have hmap : (middle.map Part.token).getLast? = some last.token := by
      rw [List.getLast?_map, hlast]
      rfl
    rw [← map_token_placeRow {} middle, List.getLast?_map] at hmap
    obtain ⟨found, hfound, htoken⟩ := Option.map_eq_some_iff.mp hmap
    rw [← htoken]
    exact hopen found hfound
  obtain ⟨moved, hmoved, hseen⟩ :=
    (Shows.insert hrow hend hmiddle hlayout' hopen' {}).tokenize
  have hplaced := tokenize_of_row hrow
  have hne : ∀ part ∈ front, part.lexeme ≠ [] := fun part hpart =>
    (hrow.lexemes part (List.mem_append_left _ hpart)).ne_nil
  -- token by token the texts show the same, moved by the gap from there on
  have hrel : List.Forall₂ (PlacedToken.MovedBy gap (byteLength before))
      (significant (placeRow {} (front ++ back)))
      (significant (placeRow {} front) ++
        significant (placeRow (Position.advance {} (before ++ gap)) back)) :=
    forall₂_movedBy_significant gap hne rfl
  rw [← hseen] at hrel
  refine ⟨htext, placeRow {} (front ++ back), moved, hplaced, map_token_placeRow _ _, hmoved, hrel, ?_⟩
  -- the parser is given the same tokens
  have htokens : (significant moved).map (·.token) =
      (significant (placeRow {} (front ++ back))).map (·.token) := by
    rw [← List.forall₂_eq_eq_eq, List.forall₂_map_left_iff, List.forall₂_map_right_iff]
    exact hrel.flip.imp fun _ _ h => h.token
  cases hparse : ofTokens? ((significant (placeRow {} (front ++ back))).map (·.token)) with
  | ok p =>
    have hparse' := htokens ▸ hparse
    rw [ofText?_of_parsed hplaced hparse]
    exact ofText?_of_parsed hmoved hparse'
  | error e =>
    have hparse' := htokens ▸ hparse
    rw [ofText?_of_refused hplaced hparse]
    refine ⟨_, ofText?_of_refused hmoved hparse', ?_⟩
    -- the error points at tokens of the same index
    have hat := forall₂_getElem? hrel e.position
    unfold ParseError.span?
    generalize (significant (placeRow {} (front ++ back)))[e.position]? = found at hat ⊢
    generalize (significant moved)[e.position]? = found' at hat ⊢
    cases hat with
    | none => exact .none
    | some hfound => exact .some hfound.span

/-- A comment and a blank are put behind the keyword, where the blank joins the one that is there. The
parenthesis is still what is wrong with the document. -/
theorem Program.ofText?_insert_comment :
    let front : List Part := [⟨.keyword .bind, ['b', 'i', 'n', 'd']⟩]
    let back : List Part := [⟨.whitespace " ", [' ']⟩, ⟨.delimiter .closeParen, [')']⟩]
    let e : ParseError := ⟨.unexpected "identifier" "`)`", 1, ["binding", "program"]⟩
    IsRow "bind )".toList (front ++ back) ∧
      ofText? "bind )".toList = .error (.parse e (some ⟨5, 6, 1, 6⟩)) ∧
      ∃ span, ofText? "bind/*)*/  )".toList = .error (.parse e (some span)) ∧
        span.start = 11 ∧ span.stop = 12 ∧ span.line = 1 := by
  intro front back e
  -- the text is a row, as its lexemes may stand next to one another
  have hrow : IsRow "bind )".toList (front ++ back) := by
    have hkeyword : Lexeme (.keyword .bind) ['b', 'i', 'n', 'd'] := .keyword .bind
    have hblank : Lexeme (.whitespace " ") [' '] :=
      @Lexeme.whitespace [' '] nofun (List.forall_mem_singleton.mpr rfl)
    have hclose : Lexeme (.delimiter .closeParen) [')'] := .delimiter .closeParen
    refine ⟨rfl, ?_, ?_⟩
    · exact List.forall_mem_cons.mpr ⟨hkeyword, List.forall_mem_cons.mpr ⟨hblank,
        List.forall_mem_singleton.mpr hclose⟩⟩
    · refine .cons_cons ⟨nofun, fun _ => rfl, nofun⟩ (.cons_cons ⟨fun _ => rfl, nofun, nofun⟩ ?_)
      exact List.isChain_singleton _
  -- what is inserted is a comment and a blank, and the blank merges with the one behind it
  have hgap : tokenize "/*)*/ ".toList =
      .ok [⟨.comment .block ")", ⟨0, 5, 1, 1⟩⟩, ⟨.whitespace " ", ⟨5, 6, 1, 6⟩⟩] := by rfl
  have hread : ofText? "bind )".toList = .error (.parse e (some ⟨5, 6, 1, 6⟩)) := by rfl
  have hinsert := ofText?_insert hrow (by rintro _ ⟨⟩; rfl) hgap (by decide) (by rintro _ ⟨⟩; rfl)
  obtain ⟨-, placed, moved, -, -, -, -, hmatch⟩ := hinsert
  -- the error of the text is known, so that of the longer text is the same, moved
  rw [hread] at hmatch
  obtain ⟨span', hread', hmoved⟩ := hmatch
  cases hmoved with
  | some hspan =>
    unfold Span.MovedBy at hspan
    -- the span begins behind the gap
    rw [if_neg (by decide)] at hspan
    exact ⟨hrow, hread, _, hread', hspan.1, hspan.2.1, hspan.2.2⟩

end RuleText
