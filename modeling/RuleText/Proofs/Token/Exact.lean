import RuleText.Proofs.Token.Lexeme
import RuleText.Proofs.Token.Lexer

/-!
# Lexers read the lexical grammar

A lexer takes a token off a text exactly if the text begins with a lexeme of the token, at an end of it.
What a lexer accepts is read off its combinators. For the converse the lexer has to be reached: all lexers
that are tried before it have to leave the text to it. They do so by its first character, since no two
kinds of token begin with the same one, but for the keyword, which is a word. A word that is no keyword is
left by the lexer for keywords because both are the longest run of word characters.

Main statements:

- `lexToken_sound`, `lexToken_of_takes`: the two halves;
- `lexToken_eq_ok_iff`: the lexers read exactly the lexical grammar.
-/

namespace RuleText

/-! ### What each lexer accepts -/

open Lexer

variable {text : List Char} {taken : Taken Token}

theorem lexWhitespace_sound (h : lexWhitespace text = .ok taken) : Takes text taken := by
  rw [lexWhitespace, named_eq_ok_iff, map_eq_ok_iff] at h
  obtain ⟨value, blanks, rest, hrun, rfl⟩ := h
  obtain ⟨rfl, hne, rfl, hblanks, hend⟩ := (run_eq_ok_iff _ _ _ _ _).mp hrun
  exact ⟨rfl, .whitespace hne hblanks, hend⟩

theorem lexNewline_sound (h : lexNewline text = .ok taken) : Takes text taken := by
  rw [lexNewline, named_eq_ok_iff, map_eq_ok_iff] at h
  obtain ⟨value, lexeme, rest, hfirst, rfl⟩ := h
  -- what a choice accepts, one of its lexers accepts
  obtain ⟨lexer, hmem, hlexer⟩ := exists_of_firstOf hfirst
  simp only [List.mem_cons, List.not_mem_nil, or_false] at hmem
  rcases hmem with rfl | rfl
  · obtain ⟨rfl, rfl⟩ := (fixed_eq_ok_iff _ _ _ _ _).mp hlexer
    exact ⟨rfl, .carriageReturn, trivial⟩
  · obtain ⟨rfl, rfl⟩ := (fixed_eq_ok_iff _ _ _ _ _).mp hlexer
    exact ⟨rfl, .lineFeed, trivial⟩

theorem lexLineComment_sound (h : lexLineComment text = .ok taken) : Takes text taken := by
  rw [lexLineComment, named_eq_ok_iff, andThen_eq_ok_iff] at h
  obtain ⟨_, _, behind, _, _, rest, hfixed, hcontent, rfl⟩ := h
  obtain ⟨rfl, rfl⟩ := (fixed_eq_ok_iff _ _ _ _ _).mp hfixed
  obtain ⟨content, read, _, htake, heq⟩ := (map_eq_ok_iff _ _ _ _).mp hcontent
  obtain ⟨rfl, rfl, rfl⟩ := Taken.mk.inj heq
  -- the content is a longest run, so a line ends behind it
  rw [taking_eq_ok_iff, takeRun] at htake
  rcases hspan : behind.span (!endsLine ·) with ⟨run, rest⟩
  rw [hspan] at htake
  obtain ⟨rfl, rfl, rfl⟩ := Taken.mk.inj htake
  obtain ⟨rfl, hcontent, hend⟩ := span_eq_iff.mp hspan
  refine ⟨rfl, .lineComment ?_, ?_⟩
  · intro c hc
    simpa using hcontent c hc
  · intro c hc
    simpa using hend c hc

theorem lexBlockComment_sound (h : lexBlockComment text = .ok taken) : Takes text taken := by
  rw [lexBlockComment, named_eq_ok_iff, andThen_eq_ok_iff] at h
  obtain ⟨_, _, behind, _, _, rest, hfixed, hcontent, rfl⟩ := h
  obtain ⟨rfl, rfl⟩ := (fixed_eq_ok_iff _ _ _ _ _).mp hfixed
  split at hcontent
  · rename_i content after hsplit
    obtain ⟨rfl, rfl, rfl⟩ := Taken.mk.inj (Except.ok.inj hcontent)
    obtain ⟨rfl, hfirst⟩ := (splitAtMark_eq_some_iff (by decide) _ _ _).mp hsplit
    exact ⟨rfl, .blockComment hfirst, trivial⟩
  · cases hcontent

theorem lexComment_sound (h : lexComment text = .ok taken) : Takes text taken := by
  rw [lexComment, named_eq_ok_iff] at h
  obtain ⟨lexer, hmem, hlexer⟩ := exists_of_firstOf h
  simp only [List.mem_cons, List.not_mem_nil, or_false] at hmem
  rcases hmem with rfl | rfl
  · exact lexBlockComment_sound hlexer
  · exact lexLineComment_sound hlexer

theorem lexRegex_sound (h : lexRegex text = .ok taken) : Takes text taken := by
  rw [lexRegex, named_eq_ok_iff, andThen_eq_ok_iff] at h
  obtain ⟨_, _, behind, _, _, rest, hfixed, hbehind, rfl⟩ := h
  obtain ⟨rfl, rfl⟩ := (fixed_eq_ok_iff _ _ _ _ _).mp hfixed
  obtain ⟨body, written, left, _, _, _, htake, hleft, heq⟩ := (andThen_eq_ok_iff _ _ _ _).mp hbehind
  obtain ⟨rfl, rfl, rfl⟩ := Taken.mk.inj heq
  obtain ⟨_, _, _, hclosing, heq⟩ := (map_eq_ok_iff _ _ _ _).mp hleft
  obtain ⟨rfl, rfl, rfl⟩ := Taken.mk.inj heq
  obtain ⟨rfl, rfl⟩ := (closing_eq_ok_iff _ _ _ _ _).mp hclosing
  rw [taking_eq_ok_iff] at htake
  obtain ⟨hmake, hbody⟩ := regexBody_takeRegexBody behind
  rw [htake] at hmake hbody
  refine ⟨?_, .regex hbody, trivial⟩
  rw [hmake]
  simp

theorem lexBlock_sound (h : lexBlock text = .ok taken) : Takes text taken := by
  rw [lexBlock, named_eq_ok_iff, andThen_eq_ok_iff] at h
  obtain ⟨_, _, behind, _, _, rest, hopening, hbehind, rfl⟩ := h
  obtain ⟨rfl, rfl⟩ := (opening_eq_ok_iff _ _ _ _ _).mp hopening
  obtain ⟨read, written, left, _, _, _, htake, hleft, heq⟩ := (andThen_eq_ok_iff _ _ _ _).mp hbehind
  obtain ⟨rfl, rfl, rfl⟩ := Taken.mk.inj heq
  obtain ⟨_, _, _, hclosing, heq⟩ := (map_eq_ok_iff _ _ _ _).mp hleft
  obtain ⟨rfl, rfl, rfl⟩ := Taken.mk.inj heq
  obtain ⟨rfl, rfl⟩ := (closing_eq_ok_iff _ _ _ _ _).mp hclosing
  rw [taking_eq_ok_iff] at htake
  have hmake := lexeme_append_takeBlockText behind
  -- a closing brace was found, so no backslash has been left over
  have hblock : BlockText written read := by
    have hrest : (takeBlockText behind).rest = '}' :: rest := by rw [htake]
    have htext := blockText_takeBlockText hrest
    rw [htake] at htext
    exact htext
  rw [htake] at hmake
  refine ⟨?_, .block hblock, trivial⟩
  rw [hmake]
  simp

theorem lexLiteral_sound (h : lexLiteral text = .ok taken) : Takes text taken := by
  rw [lexLiteral, named_eq_ok_iff] at h
  obtain ⟨lexer, hmem, hlexer⟩ := exists_of_firstOf h
  simp only [List.mem_cons, List.not_mem_nil, or_false] at hmem
  rcases hmem with rfl | rfl
  · exact lexRegex_sound hlexer
  · exact lexBlock_sound hlexer

/-- The keyword is read where it stands and no word goes on behind it. -/
theorem lexKeyword_eq_ok_iff : lexKeyword text = .ok taken ↔
    ∃ rest, text = Keyword.bind.text.toList ++ rest ∧
      (∀ c ∈ rest.head?, isIdentifierChar c = false) ∧
        taken = ⟨.keyword .bind, Keyword.bind.text.toList, rest⟩ := by
  rw [lexKeyword, named_eq_ok_iff, andThen_eq_ok_iff]
  refine ⟨?_, ?_⟩
  · rintro ⟨_, _, behind, _, _, rest, hfixed, hend, rfl⟩
    obtain ⟨rfl, rfl⟩ := (fixed_eq_ok_iff _ _ _ _ _).mp hfixed
    split at hend
    · cases hend
    · rename_i hword
      obtain ⟨rfl, rfl, rfl⟩ := Taken.mk.inj (Except.ok.inj hend)
      refine ⟨behind, rfl, ?_, rfl⟩
      intro c hc
      rw [Option.mem_def] at hc
      rw [hc] at hword
      simpa using hword
  · rintro ⟨rest, rfl, hend, rfl⟩
    have hword : rest.head?.any isIdentifierChar = false := by
      cases hhead : rest.head? with
      | none => rfl
      | some c => exact hend c hhead
    refine ⟨(), Keyword.bind.text.toList, rest, _, [], rest,
      (fixed_eq_ok_iff _ _ _ _ _).mpr ⟨rfl, rfl⟩, ?_, rfl⟩
    rw [hword]
    rfl

theorem lexKeyword_sound (h : lexKeyword text = .ok taken) : Takes text taken := by
  obtain ⟨rest, rfl, hend, rfl⟩ := lexKeyword_eq_ok_iff.mp h
  exact ⟨rfl, .keyword .bind, hend⟩

theorem lexDelimiter_sound (h : lexDelimiter text = .ok taken) : Takes text taken := by
  rw [lexDelimiter, named_eq_ok_iff] at h
  obtain ⟨lexer, hmem, hlexer⟩ := exists_of_firstOf h
  obtain ⟨d, -, rfl⟩ := List.mem_map.mp hmem
  obtain ⟨_, _, rest, hfixed, rfl⟩ := (map_eq_ok_iff _ _ _ _).mp hlexer
  obtain ⟨rfl, rfl⟩ := (fixed_eq_ok_iff _ _ _ _ _).mp hfixed
  exact ⟨rfl, .delimiter d, trivial⟩

/-- A word that is a keyword is written as that keyword is. -/
theorem Keyword.text_of_ofText? {word : Keyword} {text : String} (h : ofText? text = some word) :
    word.text = text := by
  rw [ofText?] at h
  split at h
  · rename_i htext
    obtain rfl := Option.some.inj h
    exact htext.symm
  · cases h

theorem lexIdentifier_sound (h : lexIdentifier text = .ok taken) : Takes text taken := by
  obtain ⟨_, word, rest, hrun, rfl⟩ := (map_eq_ok_iff _ _ _ _).mp h
  rw [named_eq_ok_iff] at hrun
  obtain ⟨rfl, hne, rfl, hword, hend⟩ := (run_eq_ok_iff _ _ _ _ _).mp hrun
  -- the word may be a keyword, and is the same token then
  cases hkeyword : Keyword.ofText? (String.ofList _) with
  | none =>
    exact ⟨rfl, .identifier hne hword hkeyword, hend⟩
  | some keyword =>
    have hlexeme := Lexeme.keyword keyword
    rw [Keyword.text_of_ofText? hkeyword, String.toList_ofList] at hlexeme
    exact ⟨rfl, hlexeme, hend⟩

/-- **What a lexer takes is what the grammar allows.** -/
theorem takes_of_accepted {lexer : Lexer Token} (hmem : lexer ∈ tokenLexers)
    (h : lexer text = .ok taken) : Takes text taken := by
  simp only [tokenLexers, List.mem_cons, List.not_mem_nil, or_false] at hmem
  rcases hmem with rfl | rfl | rfl | rfl | rfl | rfl | rfl
  · exact lexWhitespace_sound h
  · exact lexNewline_sound h
  · exact lexComment_sound h
  · exact lexLiteral_sound h
  · exact lexKeyword_sound h
  · exact lexDelimiter_sound h
  · exact lexIdentifier_sound h

/-- And so is what the first of them takes that accepts. -/
theorem lexToken_sound (h : lexToken text = .ok taken) : Takes text taken := by
  obtain ⟨lexer, hmem, hlexer⟩ := exists_of_firstOf h
  exact takes_of_accepted hmem hlexer

/-! ### What each lexer leaves to others

A lexer needs no more than the first character to leave a text to others. -/

theorem leaves_lexWhitespace (h : ∀ c ∈ text.head?, isBlank c = false) : Leaves lexWhitespace text :=
  ((leaves_run h).map _).named _

theorem leaves_lexNewline (hreturn : text.head? ≠ some '\r') (hfeed : text.head? ≠ some '\n') :
    Leaves lexNewline text := by
  refine ((leaves_firstOf ?_).map _).named _
  intro lexer hmem
  simp only [List.mem_cons, List.not_mem_nil, or_false] at hmem
  rcases hmem with rfl | rfl
  · exact leaves_fixed hreturn
  · exact leaves_fixed hfeed

theorem leaves_lexComment (h : text.head? ≠ some '/') : Leaves lexComment text := by
  refine (leaves_firstOf ?_).named _
  intro lexer hmem
  simp only [List.mem_cons, List.not_mem_nil, or_false] at hmem
  rcases hmem with rfl | rfl
  · exact ((leaves_fixed h).andThen _).named _
  · exact ((leaves_fixed h).andThen _).named _

theorem leaves_lexLiteral (hregex : text.head? ≠ some '~') (hblock : text.head? ≠ some '{') :
    Leaves lexLiteral text := by
  refine (leaves_firstOf ?_).named _
  intro lexer hmem
  simp only [List.mem_cons, List.not_mem_nil, or_false] at hmem
  rcases hmem with rfl | rfl
  · exact ((leaves_fixed hregex).andThen _).named _
  · exact ((leaves_opening hblock).andThen _).named _

theorem leaves_lexDelimiter (h : ∀ d : Delimiter, text.head? ≠ some d.char) :
    Leaves lexDelimiter text := by
  refine (leaves_firstOf ?_).named _
  intro lexer hmem
  obtain ⟨d, -, rfl⟩ := List.mem_map.mp hmem
  exact (leaves_fixed (h d)).map _

/-- Where no keyword stands, or a word goes on behind it, the text is left to others. -/
theorem leaves_lexKeyword (h : ∀ taken, lexKeyword text ≠ .ok taken) : Leaves lexKeyword text := by
  refine Leaves.named ?_ _
  by_cases hmark : Keyword.bind.text.toList.isPrefixOf text = true
  · obtain ⟨rest, rfl⟩ := List.isPrefixOf_iff_prefix.mp hmark
    have hfixed : fixed Keyword.bind.text.toList (Keyword.bind.text.toList ++ rest) =
        .ok ⟨(), Keyword.bind.text.toList, rest⟩ := (fixed_eq_ok_iff _ _ _ _ _).mpr ⟨rfl, rfl⟩
    -- only the word that goes on can keep the keyword from being read
    have hword : rest.head?.any isIdentifierChar = true := by
      by_contra hword
      refine h _ (lexKeyword_eq_ok_iff.mpr ⟨rest, rfl, ?_, rfl⟩)
      intro c hc
      rw [Option.mem_def] at hc
      rw [hc] at hword
      simpa using hword
    refine ⟨⟨false, [⟨rest, .absence⟩]⟩, ?_, rfl⟩
    simp only [andThen, hfixed, hword, if_true]
    rfl
  · refine Leaves.andThen ⟨⟨false, [⟨text, .fixedText⟩]⟩, ?_, rfl⟩ _
    rw [fixed, if_neg hmark]
    rfl

/-- A word that is no keyword is left to the lexer for identifiers. -/
theorem leaves_lexKeyword_of_word {word rest : List Char} (h : ∀ c ∈ word, isIdentifierChar c = true)
    (hkeyword : Keyword.ofText? (String.ofList word) = none)
    (hend : ∀ c ∈ rest.head?, isIdentifierChar c = false) : Leaves lexKeyword (word ++ rest) := by
  refine leaves_lexKeyword ?_
  intro taken htaken
  obtain ⟨behind, htext, hbehind, rfl⟩ := lexKeyword_eq_ok_iff.mp htaken
  -- the word and the keyword would both be the longest run of word characters
  have hword : (word ++ rest).span isIdentifierChar = (word, rest) :=
    span_eq_iff.mpr ⟨rfl, h, hend⟩
  have hchars : Keyword.bind.text.toList.all isIdentifierChar = true := by decide
  have hbind : (word ++ rest).span isIdentifierChar = (Keyword.bind.text.toList, behind) :=
    span_eq_iff.mpr ⟨htext, List.all_eq_true.mp hchars, hbehind⟩
  obtain ⟨rfl, rfl⟩ := Prod.mk.inj (hword.symm.trans hbind)
  exact absurd hkeyword (by decide)

/-! ### What each lexer takes -/

section Takes

variable {rest : List Char}

theorem lexWhitespace_eq {blanks : List Char} (hne : blanks ≠ [])
    (h : ∀ c ∈ blanks, isBlank c = true) (hend : ∀ c ∈ rest.head?, isBlank c = false) :
    lexWhitespace (blanks ++ rest) =
      .ok ⟨.whitespace (String.ofList blanks), blanks, rest⟩ := by
  rw [lexWhitespace, named_eq_ok_iff, map_eq_ok_iff]
  exact ⟨blanks, blanks, rest, (run_eq_ok_iff _ _ _ _ _).mpr ⟨rfl, hne, rfl, h, hend⟩, rfl⟩

theorem lexLineComment_eq {content : List Char} (h : ∀ c ∈ content, endsLine c = false)
    (hend : ∀ c ∈ rest.head?, endsLine c = true) :
    lexLineComment ('/' :: '/' :: (content ++ rest)) =
      .ok ⟨.comment .line (String.ofList (trim content)), '/' :: '/' :: content, rest⟩ := by
  have hspan : (content ++ rest).span (!endsLine ·) = (content, rest) := by
    refine span_eq_iff.mpr ⟨rfl, ?_, ?_⟩
    · intro c hc
      rw [h c hc]
      rfl
    · intro c hc
      rw [hend c hc]
      rfl
  rw [lexLineComment, named_eq_ok_iff, andThen_eq_ok_iff]
  refine ⟨(), ['/', '/'], content ++ rest, _, content, rest,
    (fixed_eq_ok_iff _ _ _ _ _).mpr ⟨rfl, rfl⟩, ?_, rfl⟩
  rw [map_eq_ok_iff]
  refine ⟨content, content, rest, ?_, rfl⟩
  rw [taking_eq_ok_iff, takeRun, hspan]

theorem lexBlockComment_eq {content : List Char} (h : FirstMark ['*', '/'] content) :
    lexBlockComment ('/' :: '*' :: (content ++ ['*', '/'] ++ rest)) =
      .ok ⟨.comment .block (String.ofList content), '/' :: '*' :: (content ++ ['*', '/']), rest⟩ := by
  have hsplit : splitAtMark ['*', '/'] (content ++ ['*', '/'] ++ rest) = some (content, rest) :=
    (splitAtMark_eq_some_iff (by decide) _ _ _).mpr ⟨by rw [List.append_assoc], h⟩
  rw [lexBlockComment, named_eq_ok_iff, andThen_eq_ok_iff]
  refine ⟨(), ['/', '*'], content ++ ['*', '/'] ++ rest, _, content ++ ['*', '/'], rest,
    (fixed_eq_ok_iff _ _ _ _ _).mpr ⟨rfl, rfl⟩, ?_, rfl⟩
  rw [hsplit]

theorem lexRegex_eq {written body : List Char} (h : RegexBody written body) :
    lexRegex ('~' :: '/' :: (written ++ '/' :: rest)) =
      .ok ⟨.regex (String.ofList body), '~' :: '/' :: (written ++ ['/']), rest⟩ := by
  rw [lexRegex, named_eq_ok_iff, andThen_eq_ok_iff]
  refine ⟨(), ['~', '/'], written ++ '/' :: rest, _, written ++ ['/'], rest,
    (fixed_eq_ok_iff _ _ _ _ _).mpr ⟨rfl, rfl⟩, ?_, rfl⟩
  rw [andThen_eq_ok_iff]
  refine ⟨body, written, '/' :: rest, _, ['/'], rest, ?_, ?_, rfl⟩
  · rw [taking_eq_ok_iff]
    exact takeRegexBody_of_regexBody h rest
  · rw [map_eq_ok_iff]
    exact ⟨(), ['/'], rest, (closing_eq_ok_iff _ _ _ _ _).mpr ⟨rfl, rfl⟩, rfl⟩

theorem lexBlock_eq {written text : List Char} (h : BlockText written text) :
    lexBlock ('{' :: (written ++ '}' :: rest)) =
      .ok ⟨.block (String.ofList ('{' :: text ++ ['}'])), '{' :: (written ++ ['}']), rest⟩ := by
  rw [lexBlock, named_eq_ok_iff, andThen_eq_ok_iff]
  refine ⟨(), ['{'], written ++ '}' :: rest, _, written ++ ['}'], rest,
    (opening_eq_ok_iff _ _ _ _ _).mpr ⟨rfl, rfl⟩, ?_, rfl⟩
  rw [andThen_eq_ok_iff]
  refine ⟨text, written, '}' :: rest, _, ['}'], rest, ?_, ?_, rfl⟩
  · rw [taking_eq_ok_iff]
    exact takeBlockText_of_blockText h rest
  · rw [map_eq_ok_iff]
    exact ⟨(), ['}'], rest, (closing_eq_ok_iff _ _ _ _ _).mpr ⟨rfl, rfl⟩, rfl⟩

theorem lexDelimiter_eq (d : Delimiter) :
    lexDelimiter (d.char :: rest) = .ok ⟨.delimiter d, [d.char], rest⟩ := by
  rw [lexDelimiter, named_eq_ok_iff]
  cases d <;> rfl

theorem lexIdentifier_eq {word : List Char} (hne : word ≠ [])
    (h : ∀ c ∈ word, isIdentifierChar c = true)
    (hkeyword : Keyword.ofText? (String.ofList word) = none)
    (hend : ∀ c ∈ rest.head?, isIdentifierChar c = false) :
    lexIdentifier (word ++ rest) = .ok ⟨.identifier (String.ofList word), word, rest⟩ := by
  rw [lexIdentifier, map_eq_ok_iff]
  refine ⟨word, word, rest, ?_, ?_⟩
  · rw [named_eq_ok_iff]
    exact (run_eq_ok_iff _ _ _ _ _).mpr ⟨rfl, hne, rfl, h, hend⟩
  · rw [hkeyword]

end Takes

/-- A comment of either sort. The lexer for block comments leaves a line comment after the second
slash. -/
theorem lexComment_eq_of_line (h : lexLineComment ('/' :: '/' :: text) = .ok taken) :
    lexComment ('/' :: '/' :: text) = .ok taken := by
  have hbefore : ∀ lexer ∈ [lexBlockComment], Leaves lexer ('/' :: '/' :: text) := by
    rw [List.forall_mem_singleton]
    exact Leaves.named (Leaves.andThen ⟨_, rfl, rfl⟩ _) _
  rw [lexComment, named_eq_ok_iff]
  exact firstOf_of_leaves hbefore h

theorem lexComment_eq_of_block (h : lexBlockComment text = .ok taken) :
    lexComment text = .ok taken := by
  have hbefore : ∀ lexer ∈ ([] : List (Lexer Token)), Leaves lexer text := nofun
  rw [lexComment, named_eq_ok_iff]
  exact firstOf_of_leaves hbefore h

theorem lexLiteral_eq_of_regex (h : lexRegex text = .ok taken) : lexLiteral text = .ok taken := by
  have hbefore : ∀ lexer ∈ ([] : List (Lexer Token)), Leaves lexer text := nofun
  rw [lexLiteral, named_eq_ok_iff]
  exact firstOf_of_leaves hbefore h

theorem lexLiteral_eq_of_block (h : lexBlock ('{' :: text) = .ok taken) :
    lexLiteral ('{' :: text) = .ok taken := by
  have hbefore : ∀ lexer ∈ [lexRegex], Leaves lexer ('{' :: text) := by
    rw [List.forall_mem_singleton]
    exact ((leaves_fixed (by simp)).andThen _).named _
  rw [lexLiteral, named_eq_ok_iff]
  exact firstOf_of_leaves hbefore h

/-! ### The token at the front of a text -/

theorem lexToken_eq_of_whitespace (h : lexWhitespace text = .ok taken) : lexToken text = .ok taken := by
  have hbefore : ∀ lexer ∈ ([] : List (Lexer Token)), Leaves lexer text := nofun
  exact firstOf_of_leaves hbefore h

theorem lexToken_eq_of_newline (hblank : ∀ c ∈ text.head?, isBlank c = false)
    (h : lexNewline text = .ok taken) : lexToken text = .ok taken := by
  have hbefore : ∀ lexer ∈ [lexWhitespace], Leaves lexer text := by
    rw [List.forall_mem_singleton]
    exact leaves_lexWhitespace hblank
  exact firstOf_of_leaves hbefore h

theorem lexToken_eq_of_comment (h : lexComment ('/' :: text) = .ok taken) :
    lexToken ('/' :: text) = .ok taken := by
  have hbefore : ∀ lexer ∈ [lexWhitespace, lexNewline], Leaves lexer ('/' :: text) := by
    rw [List.forall_mem_cons, List.forall_mem_singleton]
    exact ⟨leaves_lexWhitespace (by rintro _ ⟨⟩; rfl), leaves_lexNewline (by simp) (by simp)⟩
  exact firstOf_of_leaves hbefore h

theorem lexToken_eq_of_literal {c : Char} (hc : c = '~' ∨ c = '{')
    (h : lexLiteral (c :: text) = .ok taken) : lexToken (c :: text) = .ok taken := by
  have hbefore : ∀ lexer ∈ [lexWhitespace, lexNewline, lexComment], Leaves lexer (c :: text) := by
    rw [List.forall_mem_cons, List.forall_mem_cons, List.forall_mem_singleton]
    rcases hc with rfl | rfl
    · exact ⟨leaves_lexWhitespace (by rintro _ ⟨⟩; rfl), leaves_lexNewline (by simp) (by simp),
        leaves_lexComment (by simp)⟩
    · exact ⟨leaves_lexWhitespace (by rintro _ ⟨⟩; rfl), leaves_lexNewline (by simp) (by simp),
        leaves_lexComment (by simp)⟩
  exact firstOf_of_leaves hbefore h

/-- The characters that layout and literals begin with. -/
def layoutLiteralStarts : List Char := [' ', '\t', '\r', '\n', '/', '~', '{']

theorem not_identifierChar_of_start {c : Char} (h : c ∈ layoutLiteralStarts) :
    isIdentifierChar c = false := by
  have hall : layoutLiteralStarts.all (!isIdentifierChar ·) = true := by decide
  simpa using List.all_eq_true.mp hall c h

/-- A text that begins with none of these characters is left to the lexers for words and delimiters. -/
theorem leaves_layout_literal (h : ∀ c ∈ text.head?, c ∉ layoutLiteralStarts) :
    ∀ lexer ∈ [lexWhitespace, lexNewline, lexComment, lexLiteral], Leaves lexer text := by
  have hne : ∀ c ∈ layoutLiteralStarts, text.head? ≠ some c :=
    fun c hstart hhead => h c hhead hstart
  have hblank : ∀ c ∈ text.head?, isBlank c = false := by
    intro c hc
    have hspace : c ≠ ' ' := fun heq => h c hc (by simp [layoutLiteralStarts, heq])
    have htab : c ≠ '\t' := fun heq => h c hc (by simp [layoutLiteralStarts, heq])
    simp [isBlank, hspace, htab]
  rw [List.forall_mem_cons, List.forall_mem_cons, List.forall_mem_cons, List.forall_mem_singleton]
  exact ⟨leaves_lexWhitespace hblank, leaves_lexNewline (hne _ (by decide)) (hne _ (by decide)),
    leaves_lexComment (hne _ (by decide)), leaves_lexLiteral (hne _ (by decide)) (hne _ (by decide))⟩

theorem lexToken_eq_of_keyword (h : lexKeyword text = .ok taken) : lexToken text = .ok taken := by
  obtain ⟨rest, rfl, -, -⟩ := lexKeyword_eq_ok_iff.mp h
  refine firstOf_of_leaves (leaves_layout_literal ?_) h
  intro c hc
  obtain rfl : 'b' = c := Option.some.inj hc
  decide

theorem lexToken_eq_of_delimiter (d : Delimiter) (h : lexDelimiter (d.char :: text) = .ok taken) :
    lexToken (d.char :: text) = .ok taken := by
  have hbefore : ∀ lexer ∈ [lexWhitespace, lexNewline, lexComment, lexLiteral] ++ [lexKeyword],
      Leaves lexer (d.char :: text) := by
    rw [List.forall_mem_append, List.forall_mem_singleton]
    refine ⟨leaves_layout_literal ?_, leaves_lexKeyword ?_⟩
    · intro c hc
      obtain rfl : d.char = c := Option.some.inj hc
      cases d <;> decide
    · intro taken htaken
      obtain ⟨rest, heq, -, -⟩ := lexKeyword_eq_ok_iff.mp htaken
      have hb : d.char = 'b' := (List.cons.inj heq).1
      cases d <;> exact absurd hb (by decide)
  exact firstOf_of_leaves hbefore h

theorem lexToken_eq_of_identifier {word rest : List Char} (hne : word ≠ [])
    (hword : ∀ c ∈ word, isIdentifierChar c = true)
    (hkeyword : Keyword.ofText? (String.ofList word) = none)
    (hend : ∀ c ∈ rest.head?, isIdentifierChar c = false) :
    lexToken (word ++ rest) = .ok ⟨.identifier (String.ofList word), word, rest⟩ := by
  -- no character of a word is one that another token begins with
  have hhead : ∀ c ∈ (word ++ rest).head?, isIdentifierChar c = true := by
    intro c hc
    cases word with
    | nil => exact absurd rfl hne
    | cons first others =>
      obtain rfl := Option.some.inj hc
      exact hword first List.mem_cons_self
  have hbefore : ∀ lexer ∈
      [lexWhitespace, lexNewline, lexComment, lexLiteral] ++ [lexKeyword, lexDelimiter],
      Leaves lexer (word ++ rest) := by
    rw [List.forall_mem_append]
    refine ⟨leaves_layout_literal ?_, List.forall_mem_cons.mpr
      ⟨leaves_lexKeyword_of_word hword hkeyword hend, List.forall_mem_singleton.mpr
        (leaves_lexDelimiter ?_)⟩⟩
    · intro c hc hstart
      have hchar := hhead c hc
      rw [not_identifierChar_of_start hstart] at hchar
      cases hchar
    · intro d hd
      have hchar := hhead d.char hd
      cases d <;> exact absurd hchar (by decide)
  exact firstOf_of_leaves hbefore (lexIdentifier_eq hne hword hkeyword hend)

/-- **What the grammar allows is what the lexers take.** The token's own lexer accepts the text, and all
those before it leave it. -/
theorem lexToken_of_takes (h : Takes text taken) : lexToken text = .ok taken := by
  obtain ⟨token, lexeme, rest⟩ := taken
  obtain ⟨rfl, hlexeme, hend⟩ := h
  change Lexeme token lexeme at hlexeme
  change token.MayEnd rest at hend
  change lexToken (lexeme ++ rest) = .ok ⟨token, lexeme, rest⟩
  -- each form is taken by a lexer of its own; those before it in the list refuse the text
  cases hlexeme with
  | whitespace hne hblanks =>
    exact lexToken_eq_of_whitespace (lexWhitespace_eq hne hblanks hend)
  | lineFeed =>
    -- a line feed and a carriage return are no blanks
    exact lexToken_eq_of_newline (by rintro _ ⟨⟩; rfl) rfl
  | carriageReturn =>
    exact lexToken_eq_of_newline (by rintro _ ⟨⟩; rfl) rfl
  | lineComment hcontent =>
    exact lexToken_eq_of_comment (lexComment_eq_of_line (lexLineComment_eq hcontent hend))
  | blockComment hfirst =>
    exact lexToken_eq_of_comment (lexComment_eq_of_block (lexBlockComment_eq hfirst))
  | regex hbody =>
    -- literals come behind the comments, which begin with a slash as well
    simp only [List.cons_append, List.append_assoc, List.nil_append]
    exact lexToken_eq_of_literal (Or.inl rfl) (lexLiteral_eq_of_regex (lexRegex_eq hbody))
  | block htext =>
    simp only [List.cons_append, List.append_assoc, List.nil_append]
    exact lexToken_eq_of_literal (Or.inr rfl) (lexLiteral_eq_of_block (lexBlock_eq htext))
  | keyword word =>
    cases word
    exact lexToken_eq_of_keyword (lexKeyword_eq_ok_iff.mpr ⟨rest, rfl, hend, rfl⟩)
  | delimiter d =>
    exact lexToken_eq_of_delimiter d (lexDelimiter_eq d)
  | identifier hne hword hkeyword =>
    -- an identifier is what is left, and no keyword
    exact lexToken_eq_of_identifier hne hword hkeyword hend

/-- **The lexers read exactly the lexical grammar.** -/
theorem lexToken_eq_ok_iff : lexToken text = .ok taken ↔ Takes text taken :=
  ⟨lexToken_sound, lexToken_of_takes⟩

end RuleText
