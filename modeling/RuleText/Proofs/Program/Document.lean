import RuleText.Proofs.Program.Tokens
import RuleText.Proofs.Token.Row

/-!
# What the grammar sees of a text

The grammar sees the tokens of a text without its layout (`Yields`). A text is read as a program exactly if
what the grammar sees of it is the way that the program is written as tokens.

Texts are built from the back, a lexeme at a time. A lexeme in front of a text puts its token in front of
what the grammar sees, as long as the token may end there, and a blank or a line break changes nothing. That
a blank may always be put in front rests on the one place where lexemes merge: in front of other blanks it
makes a longer run of them, and nothing else begins with a blank.

Main definitions:

- `Yields`: what the grammar sees of a text.

Main statements:

- `Yields.blank`, `Yields.lineFeed`, `Yields.token`: how it grows at the front;
- `Program.ofText?_eq_ok_iff`: the texts of a program.
-/

namespace RuleText

/-- What the grammar sees of a text. -/
def Yields (text : List Char) (tokens : List Token) : Prop :=
  ∃ all, Splits text all ∧ all.filter (!·.isLayout) = tokens

theorem Yields.nil : Yields [] [] :=
  ⟨[], .nil, rfl⟩

section Front

variable {rest : List Char} {tokens : List Token} (h : Yields rest tokens)

include h

theorem Yields.token {token : Token} {lexeme : List Char} (hlexeme : Lexeme token lexeme)
    (hend : token.MayEnd rest) (hseen : token.isLayout = false) :
    Yields (lexeme ++ rest) (token :: tokens) := by
  obtain ⟨all, hsplits, rfl⟩ := h
  refine ⟨token :: all, .cons hlexeme hend hsplits, ?_⟩
  rw [List.filter_cons_of_pos]
  rw [hseen]
  rfl

theorem Yields.layout {token : Token} {lexeme : List Char} (hlexeme : Lexeme token lexeme)
    (hend : token.MayEnd rest) (hlayout : token.isLayout = true) : Yields (lexeme ++ rest) tokens := by
  obtain ⟨all, hsplits, rfl⟩ := h
  refine ⟨token :: all, .cons hlexeme hend hsplits, ?_⟩
  rw [List.filter_cons_of_neg]
  rw [hlayout]
  decide

theorem Yields.lineFeed : Yields ('\n' :: rest) tokens :=
  h.layout .lineFeed trivial rfl

theorem Yields.delimiter (d : Delimiter) : Yields (d.char :: rest) (.delimiter d :: tokens) :=
  h.token (.delimiter d) trivial rfl

end Front

/-! ### Blanks -/

/-- A blank in front of a text joins the blanks there, if there are any. -/
theorem Splits.blank {rest : List Char} {all : List Token} (h : Splits rest all) :
    ∃ all', Splits (' ' :: rest) all' ∧ all'.filter (!·.isLayout) = all.filter (!·.isLayout) := by
  have hspace : ∀ c ∈ [' '], isBlank c = true := List.forall_mem_singleton.mpr rfl
  -- a run of one blank, in front of anything but a blank
  have halone (hend : ∀ c ∈ rest.head?, isBlank c = false) : Splits (' ' :: rest) (_ :: all) :=
    .cons (.whitespace (List.cons_ne_nil _ _) hspace) hend h
  cases h with
  | nil =>
    exact ⟨_, halone nofun, rfl⟩
  | @cons token lexeme rest tokens hlexeme hend hrest =>
    cases htoken : token.isWhitespace with
    | false =>
      refine ⟨_, halone ?_, rfl⟩
      -- only white space begins with a blank
      obtain ⟨c, more, rfl, htells⟩ := hlexeme.first
      have hblank : isBlank c = false := htells.blank.trans htoken
      intro d hd
      rw [← Option.some.inj hd]
      exact hblank
    | true =>
      cases hlexeme with
      | whitespace hne hblanks =>
        -- the blank makes the run that is there one longer
        have hlonger : ∀ c ∈ ' ' :: lexeme, isBlank c = true :=
          List.forall_mem_cons.mpr ⟨rfl, hblanks⟩
        exact ⟨_, .cons (.whitespace (List.cons_ne_nil _ _) hlonger) hend hrest, rfl⟩
      | _ => cases htoken

/-- A blank in front of a text is not seen. -/
theorem Yields.blank {rest : List Char} {tokens : List Token} (h : Yields rest tokens) :
    Yields (' ' :: rest) tokens := by
  obtain ⟨all, hsplits, rfl⟩ := h
  exact hsplits.blank

/-! ### Programs -/

/-- **The texts of a program.** -/
theorem Program.ofText?_eq_ok_iff (text : List Char) (p : Program) :
    ofText? text = .ok p ↔ Yields text p.tokens := by
  rw [ofText?]
  refine ⟨fun h => ?_, ?_⟩
  · cases hscan : tokenize text with
    | error e =>
      rw [hscan] at h
      cases h
    | ok placed =>
      rw [hscan] at h
      simp only at h
      split at h
      · cases h
      · rename_i program hprogram
        obtain rfl := Except.ok.inj h
        rw [ofTokens?_eq_ok_iff, map_significant] at hprogram
        exact ⟨_, (tokenize_eq_ok_iff text _).mp ⟨placed, hscan, rfl⟩, hprogram⟩
  · rintro ⟨all, hsplits, htokens⟩
    obtain ⟨placed, hscan, rfl⟩ := (tokenize_eq_ok_iff text all).mpr hsplits
    rw [← map_significant, ← ofTokens?_eq_ok_iff] at htokens
    rw [hscan]
    simp only [htokens]

end RuleText
