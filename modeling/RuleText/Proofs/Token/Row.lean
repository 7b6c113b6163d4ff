import Mathlib.Data.List.Chain
import RuleText.Proofs.Token.Splits

/-!
# Rows of lexemes

The lexical grammar by itself, without the characters around a token: a text is a row of lexemes
(`IsRow`), and all that is asked of neighbours is which sorts of token they are (`Token.MayPrecede`). Two
runs of blanks, or two words, that touch would be one; and a line comment goes on to the end of its line, so
only a line break may follow it.

The other modules ask what may stand behind a token in terms of the next character (`Token.MayEnd`). The
two come to the same, because the first character of a lexeme gives away what bears on this: whether the
token is a run of blanks, a word or a line break (`Lexeme.first`).

Main definitions:

- `Part`: a token with its lexeme;
- `Token.MayPrecede`, `IsRow`: rows of lexemes.

Main statements:

- `Lexeme.mayEnd_iff`: where a token may end, given the lexeme behind it;
- `IsRow.splits`, `Splits.exists_row`: rows are splits;
- `IsRow.unique`: a text is a row of lexemes in at most one way;
- `tokenize_eq_ok_iff_row`: the scanner accepts exactly the rows of lexemes.
-/

namespace RuleText

/-! ### Neighbours -/

namespace Token

/-- Words are the keyword and identifiers. -/
def isWord : Token → Bool
  | keyword _ | identifier _ => true
  | _ => false

def isLineComment : Token → Bool
  | comment .line _ => true
  | _ => false

/-- Which sorts of token may stand directly behind a token. -/
structure MayPrecede (token next : Token) : Prop where
  blanks : token.isWhitespace = true → next.isWhitespace = false
  words : token.isWord = true → next.isWord = false
  comments : token.isLineComment = true → next.isNewline = true

end Token

/-- A token with the text that it is read from. -/
structure Part where
  token : Token
  lexeme : List Char

/-- A text is a row of lexemes, each of which may stand before the next. -/
structure IsRow (text : List Char) (row : List Part) : Prop where
  text_eq : text = row.flatMap Part.lexeme
  lexemes : ∀ part ∈ row, Lexeme part.token part.lexeme
  neighbours : row.IsChain fun part next => part.token.MayPrecede next.token

/-! ### First characters -/

theorem not_identifierChar_of_blank {c : Char} (h : isBlank c = true) : isIdentifierChar c = false := by
  rw [isBlank, Bool.or_eq_true, beq_iff_eq, beq_iff_eq] at h
  rcases h with rfl | rfl
  · exact not_identifierChar_of_start (by decide)
  · exact not_identifierChar_of_start (by decide)

theorem not_endsLine_of_blank {c : Char} (h : isBlank c = true) : endsLine c = false := by
  rw [isBlank, Bool.or_eq_true, beq_iff_eq, beq_iff_eq] at h
  rcases h with rfl | rfl <;> rfl

theorem not_identifierChar_of_endsLine {c : Char} (h : endsLine c = true) :
    isIdentifierChar c = false := by
  rw [endsLine, Bool.or_eq_true, beq_iff_eq, beq_iff_eq] at h
  rcases h with rfl | rfl
  · exact not_identifierChar_of_start (by decide)
  · exact not_identifierChar_of_start (by decide)

/-- What the first character of a lexeme tells about its token. -/
structure Tells (c : Char) (token : Token) : Prop where
  blank : isBlank c = token.isWhitespace
  word : isIdentifierChar c = token.isWord
  line : endsLine c = token.isNewline

/-- **The first character of a lexeme.** -/
theorem Lexeme.first {token : Token} {lexeme : List Char} (h : Lexeme token lexeme) :
    ∃ c more, lexeme = c :: more ∧ Tells c token := by
  cases h with
  | @whitespace blanks hne hblanks =>
    obtain ⟨c, more, rfl⟩ := List.exists_cons_of_ne_nil hne
    have hblank : isBlank c = true := hblanks c List.mem_cons_self
    exact ⟨c, more, rfl, hblank, not_identifierChar_of_blank hblank, not_endsLine_of_blank hblank⟩
  | @identifier word hne hword hkeyword =>
    obtain ⟨c, more, rfl⟩ := List.exists_cons_of_ne_nil hne
    have hchar : isIdentifierChar c = true := hword c List.mem_cons_self
    -- neither a blank nor the end of a line is a character of a word
    have hblank : isBlank c = false := by
      by_contra hblank
      rw [not_identifierChar_of_blank (Bool.not_eq_false _ ▸ hblank)] at hchar
      cases hchar
    have hline : endsLine c = false := by
      by_contra hline
      rw [not_identifierChar_of_endsLine (Bool.not_eq_false _ ▸ hline)] at hchar
      cases hchar
    exact ⟨c, more, rfl, hblank, hchar, hline⟩
  | keyword word =>
    cases word
    exact ⟨'b', ['i', 'n', 'd'], rfl, rfl, by decide, rfl⟩
  | delimiter d => cases d <;> exact ⟨_, [], rfl, rfl, by decide, rfl⟩
  -- all others begin with a character of their own, which is none of a word
  | _ => exact ⟨_, _, rfl, rfl, not_identifierChar_of_start (by decide), rfl⟩

theorem Token.mayEnd_cons_iff (token : Token) {next : Token} {c : Char} (h : Tells c next)
    (rest : List Char) : token.MayEnd (c :: rest) ↔ token.MayPrecede next := by
  have hhead : ∀ p : Char → Prop, (∀ d ∈ (c :: rest).head?, p d) ↔ p c := by
    intro p
    exact ⟨fun hall => hall c rfl, fun hc d hd => Option.some.inj hd ▸ hc⟩
  cases token with
  | whitespace text =>
    rw [MayEnd, hhead, h.blank]
    exact ⟨fun hblank => ⟨fun _ => hblank, nofun, nofun⟩, fun hmay => hmay.blanks rfl⟩
  | keyword word =>
    rw [MayEnd, hhead, h.word]
    exact ⟨fun hword => ⟨nofun, fun _ => hword, nofun⟩, fun hmay => hmay.words rfl⟩
  | identifier text =>
    rw [MayEnd, hhead, h.word]
    exact ⟨fun hword => ⟨nofun, fun _ => hword, nofun⟩, fun hmay => hmay.words rfl⟩
  | comment style content =>
    cases style with
    | line =>
      rw [MayEnd, hhead, h.line]
      exact ⟨fun hline => ⟨nofun, nofun, fun _ => hline⟩, fun hmay => hmay.comments rfl⟩
    | block => exact ⟨fun _ => ⟨nofun, nofun, nofun⟩, fun _ => trivial⟩
  | _ => exact ⟨fun _ => ⟨nofun, nofun, nofun⟩, fun _ => trivial⟩

/-- **Where a token may end.** With a lexeme behind it, this is a matter of the two tokens. -/
theorem Lexeme.mayEnd_iff {next : Token} {lexeme : List Char} (h : Lexeme next lexeme) (token : Token)
    (rest : List Char) : token.MayEnd (lexeme ++ rest) ↔ token.MayPrecede next := by
  obtain ⟨c, more, rfl, htells⟩ := h.first
  exact token.mayEnd_cons_iff htells (more ++ rest)

theorem Token.mayEnd_nil (token : Token) : token.MayEnd [] := by
  unfold MayEnd
  split
  all_goals first | exact trivial | exact nofun

/-! ### Rows -/

theorem IsRow.nil : IsRow [] [] :=
  ⟨rfl, nofun, .nil⟩

/-- A row is a part and a row behind it. -/
theorem isRow_cons_iff {text : List Char} {part : Part} {others : List Part} :
    IsRow text (part :: others) ↔
      ∃ rest, text = part.lexeme ++ rest ∧ Lexeme part.token part.lexeme ∧ IsRow rest others ∧
        part.token.MayEnd rest := by
  -- the part may stand before the next one exactly if it may end where the row behind it begins
  have hnext : ∀ {rest}, IsRow rest others →
      (part.token.MayEnd rest ↔ ∀ next ∈ others.head?, part.token.MayPrecede next.token) := by
    rintro rest ⟨rfl, hlexemes, -⟩
    cases others with
    | nil => exact ⟨fun _ => nofun, fun _ => part.token.mayEnd_nil⟩
    | cons next more =>
      have hlexeme : Lexeme next.token next.lexeme := hlexemes next List.mem_cons_self
      rw [List.flatMap_cons, hlexeme.mayEnd_iff]
      exact ⟨fun hmay d hd => Option.some.inj hd ▸ hmay, fun hall => hall next rfl⟩
  refine ⟨?_, ?_⟩
  · rintro ⟨rfl, hlexemes, hneighbours⟩
    obtain ⟨hlexeme, hothers⟩ := List.forall_mem_cons.mp hlexemes
    obtain ⟨hmay, hchain⟩ := List.isChain_cons.mp hneighbours
    have hrow : IsRow (others.flatMap Part.lexeme) others := ⟨rfl, hothers, hchain⟩
    exact ⟨_, List.flatMap_cons, hlexeme, hrow, (hnext hrow).mpr hmay⟩
  · rintro ⟨rest, rfl, hlexeme, hrow, hend⟩
    refine ⟨?_, List.forall_mem_cons.mpr ⟨hlexeme, hrow.lexemes⟩, ?_⟩
    · rw [List.flatMap_cons, ← hrow.text_eq]
    · exact List.isChain_cons.mpr ⟨(hnext hrow).mp hend, hrow.neighbours⟩

/-- **A row may be cut anywhere.** Both parts are rows, and the last part in front of the cut may end there. -/
theorem IsRow.of_append {text : List Char} {front back : List Part} (h : IsRow text (front ++ back)) :
    IsRow (front.flatMap Part.lexeme) front ∧ IsRow (back.flatMap Part.lexeme) back ∧
      ∀ last ∈ front.getLast?, last.token.MayEnd (back.flatMap Part.lexeme) := by
  obtain ⟨hfront, hback⟩ := List.forall_mem_append.mp h.lexemes
  obtain ⟨hfrontChain, hbackChain, hborder⟩ := List.isChain_append.mp h.neighbours
  refine ⟨⟨rfl, hfront, hfrontChain⟩, ⟨rfl, hback, hbackChain⟩, ?_⟩
  intro last hlast
  cases back with
  | nil => exact last.token.mayEnd_nil
  | cons next more =>
    have hnext : Lexeme next.token next.lexeme := hback next List.mem_cons_self
    rw [List.flatMap_cons, hnext.mayEnd_iff]
    exact hborder last hlast next rfl

theorem IsRow.splits {text : List Char} {row : List Part} (h : IsRow text row) :
    Splits text (row.map Part.token) := by
  induction row generalizing text with
  | nil =>
    obtain rfl : text = [] := h.text_eq
    exact .nil
  | cons part others ih =>
    obtain ⟨rest, rfl, hlexeme, hrow, hend⟩ := isRow_cons_iff.mp h
    exact .cons hlexeme hend (ih hrow)

theorem Splits.exists_row {text : List Char} {tokens : List Token} (h : Splits text tokens) :
    ∃ row, IsRow text row ∧ row.map Part.token = tokens := by
  induction h with
  | nil => exact ⟨[], .nil, rfl⟩
  | @cons token lexeme rest tokens hlexeme hend _ ih =>
    obtain ⟨row, hrow, rfl⟩ := ih
    exact ⟨⟨token, lexeme⟩ :: row, isRow_cons_iff.mpr ⟨rest, rfl, hlexeme, hrow, hend⟩, rfl⟩

/-- **A text is a row of lexemes in at most one way.** What a token takes off the text is settled by the
lexers, so two rows have the same first part. -/
theorem IsRow.unique {text : List Char} {row others : List Part} (h : IsRow text row)
    (h' : IsRow text others) : row = others := by
  induction row generalizing text others with
  | nil =>
    obtain rfl : text = [] := h.text_eq
    cases others with
    | nil => rfl
    | cons part more =>
      obtain ⟨rest, htext, hlexeme, -, -⟩ := isRow_cons_iff.mp h'
      exact absurd (List.append_eq_nil_iff.mp htext.symm).1 hlexeme.ne_nil
  | cons part row ih =>
    obtain ⟨rest, htext, hlexeme, hrow, hend⟩ := isRow_cons_iff.mp h
    cases others with
    | nil =>
      obtain rfl : text = [] := h'.text_eq
      exact absurd (List.append_eq_nil_iff.mp htext.symm).1 hlexeme.ne_nil
    | cons part' others =>
      obtain ⟨rest', htext', hlexeme', hrow', hend'⟩ := isRow_cons_iff.mp h'
      have htaken : lexToken text = .ok ⟨part.token, part.lexeme, rest⟩ :=
        lexToken_of_takes ⟨htext, hlexeme, hend⟩
      have htaken' : lexToken text = .ok ⟨part'.token, part'.lexeme, rest'⟩ :=
        lexToken_of_takes ⟨htext', hlexeme', hend'⟩
      rw [htaken, Except.ok.injEq, Taken.mk.injEq] at htaken'
      obtain ⟨htoken, hsame, rfl⟩ := htaken'
      have hpart : part = part' := by
        cases part
        cases part'
        exact congrArg₂ Part.mk htoken hsame
      rw [hpart, ih hrow hrow']

/-- **The scanner accepts exactly the rows of lexemes.** A text splits into tokens if and only if it is a
row of lexemes, the tokens are those of the row, and no text is a row of lexemes in two ways. -/
theorem tokenize_eq_ok_iff_row (text : List Char) :
    (∀ tokens : List Token,
      (∃ placed, tokenize text = .ok placed ∧ placed.map (·.token) = tokens) ↔
        ∃ row, IsRow text row ∧ row.map Part.token = tokens) ∧
      ∀ row others : List Part, IsRow text row → IsRow text others → row = others := by
  refine ⟨?_, ?_⟩
  · intro tokens
    rw [tokenize_eq_ok_iff]
    refine ⟨Splits.exists_row, ?_⟩
    rintro ⟨row, hrow, rfl⟩
    exact hrow.splits
  · intro row others h h'
    exact h.unique h'

end RuleText
