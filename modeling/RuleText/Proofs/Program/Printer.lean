import RuleText.Proofs.Program.WellLexed

/-!
# Printing programs

A program is printed an item to a line (`Program.print`). Patterns are printed as messages show them, and in
blocks every backslash and every closing brace is printed with a backslash before it. What is printed is
read back as the program, for exactly the programs that some text is read as.

That this holds of texts with any characters in them rests on two codecs. What is escaped is decoded to what
it was, and nothing inside can be taken for the end of the literal: in a body of a regular expression the
units keep a backslash from meeting a slash that it did not escape, and in a block no brace is left alone.
Around the literals stand only words, delimiters, blanks and line breaks, and each word is followed by a
character that no word has in it.

Main definitions:

- `Program.print`, and the same for the parts of a program.

Main statements:

- `regexBody_escapeSlashes`, `blockText_escapeBlock`: the codecs;
- `Pattern.lexeme_describe`: patterns as messages show them;
- `Program.yields_print`: what the grammar sees of a printed program;
- `Program.ofText?_print`: printing and reading.
-/

namespace RuleText

/-! ### Printing -/

def Binding.print (b : Binding) : List Char :=
  Keyword.bind.text.toList ++ ' ' :: (b.name.toList ++ ' ' :: '=' :: ' ' :: b.property.toList)

def Condition.print (c : Condition) : List Char :=
  c.name.toList ++ '=' :: c.pattern.describe.toList

/-- A text with a backslash before every backslash and every closing brace. -/
def escapeBlock (text : List Char) : List Char :=
  text.flatMap fun c => if c = '\\' ∨ c = '}' then ['\\', c] else [c]

def OutputBlock.print (block : OutputBlock) : List Char :=
  '{' :: (escapeBlock (inner block.raw.toList) ++ ['}'])

def Statement.print (s : Statement) : List Char :=
  '(' :: (List.intercalate [',', ' '] (s.conditions.map Condition.print) ++
    ')' :: ' ' :: s.output.print)

def Item.print : Item → List Char
  | binding b => b.print
  | statement s => s.print

/-- A program as text, an item to a line. -/
def Program.print (p : Program) : List Char :=
  p.items.flatMap fun i => i.print ++ ['\n']

/-! ### The codecs -/

theorem regexBody_escapeSlashes {body : List Char} (h : RegexUnits body) :
    RegexBody (Pattern.escapeSlashes body) body := by
  induction h with
  | nil => exact .nil
  | @plain c text hbackslash _ ih =>
    rw [Pattern.escapeSlashes, List.flatMap_cons]
    by_cases hslash : c = '/'
    · rw [if_pos hslash, hslash]
      exact .slash ih
    · rw [if_neg hslash]
      exact .plain hslash hbackslash ih
  | @escape c text hslash _ ih =>
    -- the character behind the backslash is no slash, so it is printed as it is
    rw [Pattern.escapeSlashes, List.flatMap_cons, List.flatMap_cons, if_neg (by decide),
      if_neg hslash]
    exact .escape hslash ih

theorem blockText_escapeBlock (text : List Char) : BlockText (escapeBlock text) text := by
  induction text with
  | nil => exact .nil
  | cons c text ih =>
    rw [escapeBlock, List.flatMap_cons]
    by_cases hc : c = '\\' ∨ c = '}'
    · rw [if_pos hc]
      exact .escape hc ih
    · rw [if_neg hc]
      exact .plain (fun hbrace => hc (Or.inr hbrace)) (fun hbackslash => hc (Or.inl hbackslash)) ih

/-! ### Words and patterns -/

/-- A word is the lexeme of its identifier. -/
theorem IsWord.lexeme {text : String} (h : IsWord text) : Lexeme (.identifier text) text.toList := by
  have hkeyword : Keyword.ofText? (String.ofList text.toList) = none := by
    rw [String.ofList_toList]
    exact (Keyword.ofText?_eq_none_iff text).mpr h.ne_bind
  have hlexeme := Lexeme.identifier h.ne_nil h.chars hkeyword
  rwa [String.ofList_toList] at hlexeme

/-- A pattern as messages show it is the lexeme of its token. -/
theorem Pattern.lexeme_describe {p : Pattern} (h : p.WellLexed) : Lexeme p.token p.describe.toList := by
  cases p with
  | literal text => exact IsWord.lexeme h
  | regex text =>
    have hlexeme := Lexeme.regex (regexBody_escapeSlashes h)
    rw [String.ofList_toList] at hlexeme
    unfold describe
    rw [String.toList_ofList]
    exact hlexeme

/-- Behind a pattern no word goes on, if none begins there. -/
theorem Pattern.mayEnd_token (p : Pattern) {rest : List Char}
    (h : ∀ c ∈ rest.head?, isIdentifierChar c = false) : p.token.MayEnd rest := by
  cases p with
  | literal text => exact h
  | regex text => exact trivial

/-! ### What the grammar sees -/

section Front

variable {rest : List Char} {tokens : List Token} (h : Yields rest tokens)

include h

theorem Yields.word {text : String} (hword : IsWord text)
    (hend : ∀ c ∈ rest.head?, isIdentifierChar c = false) :
    Yields (text.toList ++ rest) (.identifier text :: tokens) :=
  h.token hword.lexeme hend rfl

theorem Yields.pattern {p : Pattern} (hp : p.WellLexed)
    (hend : ∀ c ∈ rest.head?, isIdentifierChar c = false) :
    Yields (p.describe.toList ++ rest) (p.token :: tokens) := by
  have hlayout : p.token.isLayout = false := by
    cases p with
    | literal text => rfl
    | regex text => rfl
  exact h.token (Pattern.lexeme_describe hp) (p.mayEnd_token hend) hlayout

theorem Yields.block {block : OutputBlock} (hblock : IsBlock block.raw) :
    Yields (block.print ++ rest) (.block block.raw :: tokens) := by
  obtain ⟨text, htext⟩ := hblock
  have hinner : OutputBlock.inner block.raw.toList = text := by
    rw [htext, String.toList_ofList, List.cons_append, OutputBlock.inner_braces]
  rw [OutputBlock.print, hinner, htext]
  exact h.token (.block (blockText_escapeBlock text)) trivial rfl

theorem Yields.condition {c : Condition} (hc : c.WellLexed)
    (hend : ∀ d ∈ rest.head?, isIdentifierChar d = false) :
    Yields (c.print ++ rest) (c.tokens ++ tokens) := by
  have hpattern := (h.pattern hc.2 hend).delimiter .equal
  rw [Condition.print, List.append_assoc]
  refine hpattern.word hc.1 ?_
  rintro _ ⟨⟩
  decide

/-- The conditions of a statement, up to what comes behind the last one. -/
theorem Yields.conditions {conditions : List Condition} (hconditions : ∀ c ∈ conditions, c.WellLexed)
    (hend : ∀ d ∈ rest.head?, isIdentifierChar d = false) :
    Yields (List.intercalate [',', ' '] (conditions.map Condition.print) ++ rest)
      (List.intercalate [.delimiter .comma] (conditions.map Condition.tokens) ++ tokens) := by
  induction conditions with
  | nil => exact h
  | cons first others ih =>
    obtain ⟨hfirst, hothers⟩ := List.forall_mem_cons.mp hconditions
    cases others with
    | nil =>
      rw [List.map_singleton, List.map_singleton, List.intercalate_singleton,
        List.intercalate_singleton]
      exact h.condition hfirst hend
    | cons second more =>
      -- a comma and a blank stand before the next condition
      have hlater := (ih hothers).blank.delimiter .comma
      rw [List.map_cons, List.map_cons, List.map_cons, List.map_cons, List.intercalate_cons_cons,
        List.intercalate_cons_cons, List.append_assoc, List.append_assoc, List.append_assoc,
        List.append_assoc]
      refine hlater.condition hfirst ?_
      rintro _ ⟨⟩
      decide

theorem Yields.statement {s : Statement} (hs : s.WellLexed) :
    Yields (s.print ++ rest) (s.tokens ++ tokens) := by
  -- from the back: the block, the closing parenthesis, the conditions, the opening one
  have hclosing := (h.block hs.2).blank.delimiter .closeParen
  have hopening := (hclosing.conditions hs.1 (by rintro _ ⟨⟩; decide)).delimiter .openParen
  rw [Statement.print, Statement.tokens]
  simp only [List.cons_append, List.append_assoc, List.nil_append]
  exact hopening

theorem Yields.binding {b : Binding} (hb : b.WellLexed)
    (hend : ∀ c ∈ rest.head?, isIdentifierChar c = false) :
    Yields (b.print ++ rest) (b.tokens ++ tokens) := by
  -- from the back: the property, the equals sign, the name, the keyword
  have hequal := ((h.word hb.2 hend).blank.delimiter .equal).blank
  have hname := (hequal.word hb.1 (by rintro _ ⟨⟩; decide)).blank
  have hbind := hname.token (.keyword .bind) (by rintro _ ⟨⟩; decide) rfl
  rw [Binding.print, Binding.tokens]
  simp only [List.cons_append, List.append_assoc, List.nil_append]
  exact hbind

theorem Yields.item {i : Item} (hi : i.WellLexed)
    (hend : ∀ c ∈ rest.head?, isIdentifierChar c = false) :
    Yields (i.print ++ rest) (i.tokens ++ tokens) := by
  cases i with
  | binding b => exact h.binding hi hend
  | statement s => exact h.statement hi

end Front

/-- **What the grammar sees of a printed program.** -/
theorem Program.yields_print {p : Program} (h : p.WellLexed) : Yields p.print p.tokens := by
  obtain ⟨items⟩ := p
  rw [print, tokens]
  induction items with
  | nil => exact .nil
  | cons first others ih =>
    obtain ⟨hfirst, hothers⟩ := List.forall_mem_cons.mp h
    -- the line feed behind the item ends its last word
    have hlater := (ih hothers).lineFeed
    rw [List.flatMap_cons, List.flatMap_cons, List.append_assoc]
    refine hlater.item hfirst ?_
    rintro _ ⟨⟩
    decide

/-- **Printing and reading.** The programs that texts are read as are the well-lexed ones, and each is read
back from what is printed of it. -/
theorem Program.ofText?_print :
    (∀ (text : List Char) (p : Program), ofText? text = .ok p → p.WellLexed) ∧
      (∀ p : Program, p.WellLexed → ofText? p.print = .ok p) ∧
        ∀ (text : List Char) (p : Program), ofText? text = .ok p → ofText? p.print = .ok p := by
  have hprint : ∀ p : Program, p.WellLexed → ofText? p.print = .ok p :=
    fun p h => (ofText?_eq_ok_iff p.print p).mpr (yields_print h)
  refine ⟨?_, hprint, ?_⟩
  · intro text p h
    exact wellLexed_of_ofText? h
  · intro text p h
    exact hprint p (wellLexed_of_ofText? h)

/-- A slash and a closing brace that are escaped in a text are read without their backslashes, and printed
with them again. -/
theorem Program.ofText?_print_escaped :
    let p : Program := ⟨[.statement ⟨[⟨"a", .regex "x/y"⟩], ⟨"\x7b\x7d\x7d"⟩⟩]⟩
    ofText? "(a=~/x\\/y/)\x7b\\\x7d\x7d".toList = .ok p ∧ p.WellLexed ∧ ofText? p.print = .ok p := by
  have hread : ofText? "(a=~/x\\/y/)\x7b\\\x7d\x7d".toList =
      .ok ⟨[.statement ⟨[⟨"a", .regex "x/y"⟩], ⟨"\x7b\x7d\x7d"⟩⟩]⟩ := by rfl
  exact ⟨hread, ofText?_print.1 _ _ hread, ofText?_print.2.2 _ _ hread⟩

end RuleText
