import RuleText.Proofs.Text.Mark
import RuleText.Token.Lexer

/-!
# The lexical grammar

Which texts are the text of a token (`Lexeme`), and what may stand directly behind it (`Token.MayEnd`). A
word, a run of blanks and a line comment take all that they can get, so they must not go on behind their
end; every other token ends by itself.

The two literals are codecs. What stands between the marks of a literal is decoded while it is read, and
the relations `RegexBody` and `BlockText` hold between what is written and what is read, unit by unit.

Main definitions:

- `RegexBody`, `BlockText`: literal texts as they are written and as they are read;
- `Lexeme`, `Token.MayEnd`: the lexical grammar;
- `Takes`: a lexeme at the front of a text.

Main statements:

- `takeRegexBody_of_regexBody`, `regexBody_takeRegexBody`, and the same for blocks: literal texts up to
  their closing character.
-/

namespace RuleText

/-! ### Literal texts -/

/-- The body of a regular expression as it is written and as it is read. Only a slash is decoded. -/
inductive RegexBody : List Char → List Char → Prop where
  | nil : RegexBody [] []
  | plain {c : Char} {written body : List Char} (hslash : c ≠ '/') (hbackslash : c ≠ '\\')
      (h : RegexBody written body) : RegexBody (c :: written) (c :: body)
  | slash {written body : List Char} (h : RegexBody written body) :
      RegexBody ('\\' :: '/' :: written) ('/' :: body)
  | escape {c : Char} {written body : List Char} (hslash : c ≠ '/') (h : RegexBody written body) :
      RegexBody ('\\' :: c :: written) ('\\' :: c :: body)

/-- The text of an output block as it is written and as it is read. -/
inductive BlockText : List Char → List Char → Prop where
  | nil : BlockText [] []
  | plain {c : Char} {written text : List Char} (hbrace : c ≠ '}') (hbackslash : c ≠ '\\')
      (h : BlockText written text) : BlockText (c :: written) (c :: text)
  | escape {c : Char} {written text : List Char} (hc : c = '\\' ∨ c = '}')
      (h : BlockText written text) : BlockText ('\\' :: c :: written) (c :: text)
  /-- A backslash before any other character stands for itself. -/
  | backslash {c : Char} {written text : List Char} (hbrace : c ≠ '}') (hbackslash : c ≠ '\\')
      (h : BlockText (c :: written) text) : BlockText ('\\' :: c :: written) ('\\' :: text)

theorem takeRegexBody_of_regexBody {written body : List Char} (h : RegexBody written body)
    (rest : List Char) : takeRegexBody (written ++ '/' :: rest) = ⟨body, written, '/' :: rest⟩ := by
  induction h with
  | nil => rfl
  | plain hslash hbackslash _ ih =>
    rw [List.cons_append, takeRegexBody, ih]
    · rfl
    all_goals simp_all
  | slash _ ih =>
    rw [List.cons_append, List.cons_append, takeRegexBody, ih]
    rfl
  | escape hslash _ ih =>
    rw [List.cons_append, List.cons_append, takeRegexBody, ih]
    · rfl
    all_goals simp_all

/-- What is taken off a text is a body, and with what is left it makes up the text. -/
theorem regexBody_takeRegexBody (text : List Char) :
    text = (takeRegexBody text).lexeme ++ (takeRegexBody text).rest ∧
      RegexBody (takeRegexBody text).lexeme (takeRegexBody text).value := by
  fun_induction takeRegexBody text with
  | case1 => exact ⟨rfl, .nil⟩
  | case2 rest => exact ⟨rfl, .nil⟩
  | case3 => exact ⟨rfl, .nil⟩
  | case4 rest ih => exact ⟨congrArg (['\\', '/'] ++ ·) ih.1, .slash ih.2⟩
  | case5 c rest hslash ih => exact ⟨congrArg (['\\', c] ++ ·) ih.1, .escape hslash ih.2⟩
  | case6 c rest hslash hsingle hescapedSlash hescape ih =>
    have hbackslash : c ≠ '\\' := by
      rintro rfl
      cases rest with
      | nil => exact hsingle rfl rfl
      | cons d more => exact hescape d more rfl rfl
    exact ⟨congrArg ([c] ++ ·) ih.1, .plain hslash hbackslash ih.2⟩

theorem takeBlockText_of_blockText {written text : List Char} (h : BlockText written text)
    (rest : List Char) : takeBlockText (written ++ '}' :: rest) = ⟨text, written, '}' :: rest⟩ := by
  induction h with
  | nil => rfl
  | plain hbrace hbackslash _ ih =>
    rw [List.cons_append, takeBlockText, ih]
    · rfl
    all_goals simp_all
  | escape hc _ ih =>
    rcases hc with rfl | rfl
    · rw [List.cons_append, List.cons_append, takeBlockText, ih]
      rfl
    · rw [List.cons_append, List.cons_append, takeBlockText, ih]
      rfl
  | backslash hbrace hbackslash _ ih =>
    rw [List.cons_append, takeBlockText, ih]
    · rfl
    all_goals simp_all

theorem lexeme_append_takeBlockText (text : List Char) :
    text = (takeBlockText text).lexeme ++ (takeBlockText text).rest := by
  fun_induction takeBlockText text with
  | case1 => rfl
  | case2 rest => rfl
  | case3 rest ih => exact congrArg (['\\', '\\'] ++ ·) ih
  | case4 rest ih => exact congrArg (['\\', '}'] ++ ·) ih
  | case5 c rest hbrace hbackslash hescaped ih => exact congrArg ([c] ++ ·) ih

/-- What is taken off a text is the text of a block, if a closing brace is left. -/
theorem blockText_takeBlockText {text rest : List Char} (h : (takeBlockText text).rest = '}' :: rest) :
    BlockText (takeBlockText text).lexeme (takeBlockText text).value := by
  fun_induction takeBlockText text with
  | case1 => exact .nil
  | case2 rest => exact .nil
  | case3 rest ih => exact .escape (Or.inl rfl) (ih h)
  | case4 rest ih => exact .escape (Or.inr rfl) (ih h)
  | case5 c rest hbrace hbackslash hescaped ih =>
    by_cases hc : c = '\\'
    · subst hc
      have hmore := ih h
      have hmake := lexeme_append_takeBlockText rest
      change (takeBlockText rest).rest = '}' :: _ at h
      change BlockText ('\\' :: (takeBlockText rest).lexeme) ('\\' :: (takeBlockText rest).value)
      rw [h] at hmake
      -- a character follows the backslash that is neither a brace nor a backslash
      cases hlexeme : (takeBlockText rest).lexeme with
      | nil =>
        rw [hlexeme] at hmake
        exact absurd hmake (hescaped _ rfl)
      | cons d more =>
        rw [hlexeme] at hmake hmore
        have hdbrace : d ≠ '}' := fun hd => hescaped _ rfl (hd ▸ hmake)
        have hdbackslash : d ≠ '\\' := fun hd => hbackslash _ rfl (hd ▸ hmake)
        exact .backslash hdbrace hdbackslash hmore
    · exact .plain hbrace hc (ih h)

/-! ### The grammar -/

/-- What may be the text of a token. -/
inductive Lexeme : Token → List Char → Prop where
  | whitespace {blanks : List Char} (hne : blanks ≠ []) (h : ∀ c ∈ blanks, isBlank c = true) :
      Lexeme (.whitespace (String.ofList blanks)) blanks
  | lineFeed : Lexeme .newline ['\n']
  | carriageReturn : Lexeme .newline ['\r', '\n']
  | lineComment {content : List Char} (h : ∀ c ∈ content, endsLine c = false) :
      Lexeme (.comment .line (String.ofList (trim content))) ('/' :: '/' :: content)
  | blockComment {content : List Char} (h : FirstMark ['*', '/'] content) :
      Lexeme (.comment .block (String.ofList content)) ('/' :: '*' :: (content ++ ['*', '/']))
  | regex {written body : List Char} (h : RegexBody written body) :
      Lexeme (.regex (String.ofList body)) ('~' :: '/' :: (written ++ ['/']))
  | block {written text : List Char} (h : BlockText written text) :
      Lexeme (.block (String.ofList ('{' :: text ++ ['}']))) ('{' :: (written ++ ['}']))
  | keyword (word : Keyword) : Lexeme (.keyword word) word.text.toList
  | delimiter (d : Delimiter) : Lexeme (.delimiter d) [d.char]
  | identifier {word : List Char} (hne : word ≠ []) (h : ∀ c ∈ word, isIdentifierChar c = true)
      (hkeyword : Keyword.ofText? (String.ofList word) = none) :
      Lexeme (.identifier (String.ofList word)) word

/-- What may stand directly behind a token. -/
def Token.MayEnd : Token → List Char → Prop
  | whitespace _, rest => ∀ c ∈ rest.head?, isBlank c = false
  | comment .line _, rest => ∀ c ∈ rest.head?, endsLine c = true
  | keyword _, rest => ∀ c ∈ rest.head?, isIdentifierChar c = false
  | identifier _, rest => ∀ c ∈ rest.head?, isIdentifierChar c = false
  | _, _ => True

theorem Lexeme.ne_nil {token : Token} {lexeme : List Char} (h : Lexeme token lexeme) :
    lexeme ≠ [] := by
  cases h with
  | whitespace hne => exact hne
  | identifier hne => exact hne
  | keyword word => cases word; decide
  | _ => exact List.cons_ne_nil _ _

/-- What a lexer takes off a text is a lexeme at an end of it. -/
structure Takes (text : List Char) (taken : Taken Token) : Prop where
  text_eq : text = taken.lexeme ++ taken.rest
  lexeme : Lexeme taken.value taken.lexeme
  mayEnd : taken.value.MayEnd taken.rest

end RuleText
