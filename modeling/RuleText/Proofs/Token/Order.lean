import RuleText.Proofs.Token.Splits

/-!
# The order of the lexers

The lexers are tried one after the other, and the first that accepts has the text. Which one is tried first is
of no importance to the tokens: a text that two lexers accept is the text of a word, and they take the same
word off it. Only the trace of a refusal tells the order.

Two lexers that accept a text take the same off it because both keep to the lexical grammar, and that allows one
token at the front of a text. Since each sort of lexer has tokens of its own (`Lexer.Gives`), the two are of one
sort. This leaves the keyword and the identifiers, which are both words.

For the order it is not enough that no two lexers compete. A lexer that refuses for good ends the search, so it
would keep a text from those behind it. Most lexers never do that (`Lexer.Mild`). The one for literals does, but
only behind the opening of a literal, with which no other token begins. So where one lexer accepts, every other
one accepts the same or leaves the text (`Lexer.Concur`), and this is a matter of the set of lexers alone.

Main definitions:

- `TokenSort`, `TokenSort.lexers`: the sorts of token, and the lexers for each;
- `Lexer.Gives`, `Lexer.Mild`, `Lexer.Concur`: what lexers read, how they refuse, how they go together;
- `scanBy`: a scanner with any lexer for its tokens.

Main statements:

- `Lexer.Concur.firstOf_eq_ok_iff`: a choice between lexers that go together accepts what one of them accepts;
- `sort_eq_of_accepted`, `lexKeyword_iff_lexIdentifier`: which lexers accept the same text;
- `lexToken_perm`, `scanBy_perm`: the order of the lexers;
- `lexers_never_compete`: all of this in one statement.
-/

namespace RuleText

/-! ### Laws of combinators -/

namespace Lexer

variable {α β : Type}

/-- Whatever a lexer refuses, others may still accept. -/
def Mild (lexer : Lexer α) : Prop :=
  ∀ text refusal, lexer text = .error refusal → refusal.hard = false

section Mild

variable {lexer : Lexer α}

theorem Mild.named (h : Mild lexer) (construct : String) : Mild (named construct lexer) := by
  intro text refusal hrefusal
  unfold Lexer.named at hrefusal
  cases hlexer : lexer text with
  | ok taken =>
    rw [hlexer] at hrefusal
    cases hrefusal
  | error inner =>
    rw [hlexer] at hrefusal
    obtain rfl := Except.error.inj hrefusal
    -- the name goes into the trace and changes nothing else
    show inner.hard = false
    exact h text inner hlexer

theorem Mild.map (h : Mild lexer) (f : α → β) : Mild (Lexer.map f lexer) := by
  intro text refusal hrefusal
  unfold Lexer.map at hrefusal
  cases hlexer : lexer text with
  | ok taken =>
    rw [hlexer] at hrefusal
    cases hrefusal
  | error inner =>
    rw [hlexer] at hrefusal
    obtain rfl := Except.error.inj hrefusal
    exact h text inner hlexer

theorem Mild.andThen (h : Mild lexer) {next : α → Lexer β} (hnext : ∀ value, Mild (next value)) :
    Mild (lexer.andThen next) := by
  intro text refusal hrefusal
  unfold Lexer.andThen at hrefusal
  cases hlexer : lexer text with
  | error inner =>
    rw [hlexer] at hrefusal
    obtain rfl := Except.error.inj hrefusal
    exact h text inner hlexer
  | ok taken =>
    rw [hlexer] at hrefusal
    simp only at hrefusal
    cases hbehind : next taken.value taken.rest with
    | error inner =>
      rw [hbehind] at hrefusal
      obtain rfl := Except.error.inj hrefusal
      exact hnext taken.value taken.rest inner hbehind
    | ok further =>
      rw [hbehind] at hrefusal
      cases hrefusal

theorem mild_firstOf {lexers : List (Lexer α)} (h : ∀ lexer ∈ lexers, Mild lexer) :
    Mild (firstOf lexers) := by
  have hfrom : ∀ trace, Mild (firstOfFrom trace lexers) := by
    induction lexers with
    | nil =>
      intro trace text refusal hrefusal
      obtain rfl := Except.error.inj hrefusal
      rfl
    | cons lexer others ih =>
      intro trace text refusal hrefusal
      obtain ⟨hlexer, hothers⟩ := List.forall_mem_cons.mp h
      unfold firstOfFrom at hrefusal
      cases hhere : lexer text with
      | ok taken =>
        rw [hhere] at hrefusal
        cases hrefusal
      | error inner =>
        -- the refusal is soft, so it is one of those behind that is reported
        have hsoft : inner.hard = false := hlexer text inner hhere
        simp only [hhere, hsoft, Bool.false_eq_true, if_false] at hrefusal
        exact ih hothers inner.trace text refusal hrefusal
  exact hfrom []

theorem mild_refuse (cause : TraceCause) : Mild (α := α) fun text => refuse text cause := by
  intro text refusal hrefusal
  obtain rfl := Except.error.inj hrefusal
  rfl

theorem mild_taking (take : List Char → Taken α) : Mild (taking take) := by
  intro text refusal hrefusal
  cases hrefusal

theorem mild_fixed (mark : List Char) : Mild (fixed mark) := by
  intro text refusal hrefusal
  unfold fixed at hrefusal
  split at hrefusal
  · cases hrefusal
  · exact mild_refuse .fixedText text refusal hrefusal

theorem mild_run (p : Char → Bool) : Mild (run p) := by
  intro text refusal hrefusal
  unfold run at hrefusal
  simp only at hrefusal
  split at hrefusal
  · exact mild_refuse .someChars text refusal hrefusal
  · cases hrefusal

/-- A lexer that refuses, and not for good, leaves the text to others. -/
theorem Mild.leaves (h : Mild lexer) {text : List Char} {refusal : Refusal}
    (hrefusal : lexer text = .error refusal) : Leaves lexer text :=
  ⟨refusal, hrefusal, h text refusal hrefusal⟩

end Mild

/-! ### Lexers that go together -/

/-- Where one of the lexers accepts, each of them takes the same off the text or leaves it to others. -/
def Concur (lexers : List (Lexer α)) (text : List Char) : Prop :=
  ∀ lexer ∈ lexers, ∀ taken, lexer text = .ok taken →
    ∀ other ∈ lexers, other text = .ok taken ∨ Leaves other text

/-- **A choice between lexers that go together** accepts what one of them accepts. -/
theorem Concur.firstOf_eq_ok_iff {lexers : List (Lexer α)} {text : List Char} (h : Concur lexers text)
    (taken : Taken α) : firstOf lexers text = .ok taken ↔ ∃ lexer ∈ lexers, lexer text = .ok taken := by
  refine ⟨exists_of_firstOf, ?_⟩
  rintro ⟨lexer, hmem, hlexer⟩
  have hothers : ∀ other ∈ lexers, other text = .ok taken ∨ Leaves other text := h lexer hmem taken hlexer
  clear h
  -- those in front leave the text, up to the first that does not, which may come before `lexer`
  have hfrom : ∀ trace, firstOfFrom trace lexers text = .ok taken := by
    induction lexers with
    | nil => cases hmem
    | cons first others ih =>
      intro trace
      apply (firstOfFrom_cons_eq_ok_iff trace first others text taken).mpr
      rcases hothers first List.mem_cons_self with hfirst | ⟨refusal, hrefusal, hsoft⟩
      · exact Or.inl hfirst
      · have hlater : lexer ∈ others := by
          rcases List.mem_cons.mp hmem with rfl | hlater
          · rw [hlexer] at hrefusal
            cases hrefusal
          · exact hlater
        have hrest := ih hlater fun other hother => hothers other (List.mem_cons_of_mem first hother)
        exact Or.inr ⟨refusal, hrefusal, hsoft, hrest refusal.trace⟩
  exact hfrom []

/-- It does not matter in which order they stand. -/
theorem Concur.perm {lexers others : List (Lexer α)} {text : List Char} (h : Concur lexers text)
    (hperm : others.Perm lexers) : Concur others text := by
  intro lexer hlexer taken htaken other hother
  exact h lexer (hperm.mem_iff.mp hlexer) taken htaken other (hperm.mem_iff.mp hother)

end Lexer

open Lexer

/-! ### Sorts of token -/

/-- The sorts of token. The keyword and the identifiers are words. -/
inductive TokenSort where
  | whitespace
  | newline
  | comment
  | literal
  | word
  | delimiter
deriving DecidableEq

/-- The sort of a token. -/
def Token.sort : Token → TokenSort
  | keyword _ | identifier _ => .word
  | delimiter _ => .delimiter
  | regex _ | block _ => .literal
  | whitespace _ => .whitespace
  | newline => .newline
  | comment _ _ => .comment

/-- The lexers for the tokens of a sort. -/
def TokenSort.lexers : TokenSort → List (Lexer Token)
  | whitespace => [lexWhitespace]
  | newline => [lexNewline]
  | comment => [lexComment]
  | literal => [lexLiteral]
  | word => [lexKeyword, lexIdentifier]
  | delimiter => [lexDelimiter]

/-- Every lexer is for the tokens of some sort. -/
theorem mem_tokenLexers_iff {lexer : Lexer Token} :
    lexer ∈ tokenLexers ↔ ∃ sort : TokenSort, lexer ∈ sort.lexers := by
  constructor
  · intro h
    simp only [tokenLexers, List.mem_cons, List.not_mem_nil, or_false] at h
    rcases h with rfl | rfl | rfl | rfl | rfl | rfl | rfl
    · exact ⟨.whitespace, List.mem_cons_self⟩
    · exact ⟨.newline, List.mem_cons_self⟩
    · exact ⟨.comment, List.mem_cons_self⟩
    · exact ⟨.literal, List.mem_cons_self⟩
    · exact ⟨.word, List.mem_cons_self⟩
    · exact ⟨.delimiter, List.mem_cons_self⟩
    · exact ⟨.word, List.mem_cons_of_mem _ List.mem_cons_self⟩
  · rintro ⟨sort, h⟩
    cases sort
    all_goals
      simp only [TokenSort.lexers, List.mem_cons, List.not_mem_nil, or_false] at h
      simp only [tokenLexers, List.mem_cons, List.not_mem_nil, or_false, h, true_or, or_true]
    -- a word has two lexers
    rcases h with rfl | rfl
    · simp only [true_or, or_true]
    · simp only [or_true]

/-! ### What lexers give -/

/-- All that a lexer reads is of a sort. -/
def Lexer.Gives (sort : TokenSort) (lexer : Lexer Token) : Prop :=
  ∀ text taken, lexer text = .ok taken → taken.value.sort = sort

section Gives

variable {β : Type} {sort : TokenSort} {lexer : Lexer Token}

theorem Lexer.Gives.named (h : Gives sort lexer) (construct : String) :
    Gives sort (Lexer.named construct lexer) := by
  intro text taken htaken
  exact h text taken ((named_eq_ok_iff construct lexer text taken).mp htaken)

theorem gives_map {f : β → Token} (h : ∀ value, (f value).sort = sort) (inner : Lexer β) :
    Gives sort (map f inner) := by
  intro text taken htaken
  obtain ⟨value, lexeme, rest, -, rfl⟩ := (map_eq_ok_iff f inner text taken).mp htaken
  exact h value

theorem gives_andThen {next : β → Lexer Token} (h : ∀ value, Gives sort (next value)) (first : Lexer β) :
    Gives sort (first.andThen next) := by
  intro text taken htaken
  obtain ⟨value, _, behind, value', lexeme', rest, -, hnext, rfl⟩ :=
    (andThen_eq_ok_iff first next text taken).mp htaken
  exact h value behind ⟨value', lexeme', rest⟩ hnext

theorem gives_firstOf {lexers : List (Lexer Token)} (h : ∀ lexer ∈ lexers, Gives sort lexer) :
    Gives sort (firstOf lexers) := by
  intro text taken htaken
  obtain ⟨lexer, hmem, hlexer⟩ := exists_of_firstOf htaken
  exact h lexer hmem text taken hlexer

theorem gives_lexComment : Gives .comment lexComment := by
  refine Gives.named (gives_firstOf ?_) _
  intro lexer hmem
  simp only [List.mem_cons, List.not_mem_nil, or_false] at hmem
  rcases hmem with rfl | rfl
  · refine Gives.named (gives_andThen ?_ _) _
    intro _ text taken htaken
    simp only at htaken
    split at htaken
    · obtain rfl := Except.ok.inj htaken
      rfl
    · cases htaken
  · apply Gives.named
    apply gives_andThen
    intro _
    apply gives_map
    intro content
    rfl

theorem gives_lexLiteral : Gives .literal lexLiteral := by
  refine Gives.named (gives_firstOf ?_) _
  intro lexer hmem
  simp only [List.mem_cons, List.not_mem_nil, or_false] at hmem
  rcases hmem with rfl | rfl
  · apply Gives.named
    apply gives_andThen
    intro _
    apply gives_andThen
    intro body
    apply gives_map
    intro _
    rfl
  · apply Gives.named
    apply gives_andThen
    intro _
    apply gives_andThen
    intro body
    apply gives_map
    intro _
    rfl

theorem gives_lexKeyword : Gives .word lexKeyword := by
  intro text taken htaken
  obtain ⟨rest, -, -, rfl⟩ := lexKeyword_eq_ok_iff.mp htaken
  rfl

theorem gives_lexDelimiter : Gives .delimiter lexDelimiter := by
  refine Gives.named (gives_firstOf ?_) _
  intro lexer hmem
  obtain ⟨d, -, rfl⟩ := List.mem_map.mp hmem
  exact gives_map (fun _ => rfl) _

theorem gives_lexIdentifier : Gives .word lexIdentifier := by
  refine gives_map ?_ _
  intro word
  cases Keyword.ofText? (String.ofList word) with
  | some keyword => rfl
  | none => rfl

/-- **The lexers for a sort give tokens of that sort.** -/
theorem TokenSort.gives (h : lexer ∈ sort.lexers) :
    Gives sort lexer := by
  cases sort with
  | whitespace =>
    obtain rfl := List.mem_singleton.mp h
    apply Gives.named
    apply gives_map
    intro _
    rfl
  | newline =>
    obtain rfl := List.mem_singleton.mp h
    apply Gives.named
    apply gives_map
    intro _
    rfl
  | comment =>
    obtain rfl := List.mem_singleton.mp h
    exact gives_lexComment
  | literal =>
    obtain rfl := List.mem_singleton.mp h
    exact gives_lexLiteral
  | word =>
    rcases List.mem_cons.mp h with rfl | h
    · exact gives_lexKeyword
    · obtain rfl := List.mem_singleton.mp h
      exact gives_lexIdentifier
  | delimiter =>
    obtain rfl := List.mem_singleton.mp h
    exact gives_lexDelimiter

end Gives

/-! ### How lexers refuse -/

theorem mild_lexComment : Mild lexComment := by
  refine Mild.named (mild_firstOf ?_) _
  intro lexer hmem
  simp only [List.mem_cons, List.not_mem_nil, or_false] at hmem
  rcases hmem with rfl | rfl
  · refine Mild.named (Mild.andThen (mild_fixed _) ?_) _
    intro _ text refusal hrefusal
    simp only at hrefusal
    split at hrefusal
    · cases hrefusal
    · exact mild_refuse (α := Token) .missingEnd text refusal hrefusal
  · exact Mild.named (Mild.andThen (mild_fixed _) fun _ => Mild.map (mild_taking _) _) _

theorem mild_lexKeyword : Mild lexKeyword := by
  refine Mild.named (Mild.andThen (mild_fixed _) ?_) _
  intro _ text refusal hrefusal
  simp only at hrefusal
  split at hrefusal
  · exact mild_refuse (α := Token) .absence text refusal hrefusal
  · cases hrefusal

theorem mild_lexDelimiter : Mild lexDelimiter := by
  refine Mild.named (mild_firstOf ?_) _
  intro lexer hmem
  obtain ⟨d, -, rfl⟩ := List.mem_map.mp hmem
  exact Mild.map (mild_fixed _) _

theorem mild_lexNewline : Mild lexNewline := by
  refine Mild.named (Mild.map (mild_firstOf ?_) _) _
  rw [List.forall_mem_cons, List.forall_mem_singleton]
  exact ⟨mild_fixed _, mild_fixed _⟩

/-- **Only the lexer for literals refuses for good.** -/
theorem TokenSort.mild {sort : TokenSort} (hsort : sort ≠ .literal) {lexer : Lexer Token}
    (h : lexer ∈ sort.lexers) : Mild lexer := by
  cases sort with
  | whitespace =>
    obtain rfl := List.mem_singleton.mp h
    exact Mild.named (Mild.map (mild_run _) _) _
  | newline =>
    obtain rfl := List.mem_singleton.mp h
    exact mild_lexNewline
  | comment =>
    obtain rfl := List.mem_singleton.mp h
    exact mild_lexComment
  | literal => exact absurd rfl hsort
  | word =>
    rcases List.mem_cons.mp h with rfl | h
    · exact mild_lexKeyword
    · obtain rfl := List.mem_singleton.mp h
      exact Mild.map (Mild.named (mild_run _) _) _
  | delimiter =>
    obtain rfl := List.mem_singleton.mp h
    exact mild_lexDelimiter

/-! ### Texts that a lexer accepts -/

variable {text : List Char} {taken : Taken Token}

/-- Two lexers that accept a text take the same off it. -/
theorem taken_eq_of_accepted {lexer other : Lexer Token} {taken' : Taken Token}
    (hlexer : lexer ∈ tokenLexers) (hother : other ∈ tokenLexers) (h : lexer text = .ok taken)
    (h' : other text = .ok taken') : taken = taken' := by
  -- the lexical grammar allows one token at the front of the text
  have htoken : lexToken text = .ok taken := lexToken_of_takes (takes_of_accepted hlexer h)
  have htoken' : lexToken text = .ok taken' := lexToken_of_takes (takes_of_accepted hother h')
  exact Except.ok.inj (htoken.symm.trans htoken')

/-- **Lexers of two sorts never accept the same text.** -/
theorem sort_eq_of_accepted {sort sort' : TokenSort} {lexer other : Lexer Token} {taken' : Taken Token}
    (hlexer : lexer ∈ sort.lexers) (hother : other ∈ sort'.lexers) (h : lexer text = .ok taken)
    (h' : other text = .ok taken') : sort = sort' := by
  have hsame : taken = taken' :=
    taken_eq_of_accepted (mem_tokenLexers_iff.mpr ⟨sort, hlexer⟩) (mem_tokenLexers_iff.mpr ⟨sort', hother⟩) h h'
  calc sort = taken.value.sort := (TokenSort.gives hlexer text taken h).symm
    _ = taken'.value.sort := by rw [hsame]
    _ = sort' := TokenSort.gives hother text taken' h'

/-- The keyword is read as a word, too. -/
theorem lexIdentifier_bind {rest : List Char} (hend : ∀ c ∈ rest.head?, isIdentifierChar c = false) :
    lexIdentifier (Keyword.bind.text.toList ++ rest) =
      .ok ⟨.keyword .bind, Keyword.bind.text.toList, rest⟩ := by
  have hchars : Keyword.bind.text.toList.all isIdentifierChar = true := by decide
  unfold lexIdentifier
  apply (map_eq_ok_iff _ _ _ _).mpr
  refine ⟨Keyword.bind.text.toList, Keyword.bind.text.toList, rest, ?_, rfl⟩
  rw [named_eq_ok_iff, run_eq_ok_iff]
  exact ⟨rfl, by decide, rfl, List.all_eq_true.mp hchars, hend⟩

/-- **The keyword is recognized in two places**, by its own lexer and among the words. Both recognize it in the
same texts and take the same off them. -/
theorem lexKeyword_iff_lexIdentifier :
    lexKeyword text = .ok taken ↔
      lexIdentifier text = .ok taken ∧ ∃ word : Keyword, taken.value = .keyword word := by
  constructor
  · intro h
    obtain ⟨rest, rfl, hend, rfl⟩ := lexKeyword_eq_ok_iff.mp h
    exact ⟨lexIdentifier_bind hend, .bind, rfl⟩
  · rintro ⟨h, word, hword⟩
    -- the lexeme of the token is the keyword as it is written, and no word goes on behind it
    obtain ⟨token, lexeme, rest⟩ := taken
    obtain ⟨htext, hlexeme, hend⟩ := lexIdentifier_sound h
    obtain rfl : token = .keyword word := hword
    cases word
    cases hlexeme with
    | keyword =>
      exact lexKeyword_eq_ok_iff.mpr ⟨rest, htext, hend, rfl⟩

/-! ### Literals that are never closed -/

/-- With the opening of a literal no other token begins. -/
theorem Lexeme.sort_eq_literal {token : Token} {c : Char} {more : List Char} (h : Lexeme token (c :: more))
    (hopening : c = '~' ∨ c = '\x7b') : token.sort = .literal := by
  have hstart : isIdentifierChar c = false := by
    rcases hopening with rfl | rfl
    · exact not_identifierChar_of_start (by decide)
    · exact not_identifierChar_of_start (by decide)
  generalize hlexeme : c :: more = lexeme at h
  -- each other sort of lexeme begins with a character of its own
  cases h with
  | regex hbody => rfl
  | block htext => rfl
  | whitespace hne hblanks =>
    have hblank : isBlank c = true := hblanks c (hlexeme ▸ List.mem_cons_self)
    rcases hopening with rfl | rfl
    · cases hblank
    · cases hblank
  | identifier hne hword hkeyword =>
    have hchar : isIdentifierChar c = true := hword c (hlexeme ▸ List.mem_cons_self)
    rw [hstart] at hchar
    cases hchar
  | keyword word =>
    -- the keyword begins with a letter
    cases word
    obtain rfl : c = 'b' := (List.cons.inj hlexeme).1
    exact absurd hopening (by decide)
  | delimiter d =>
    obtain rfl : c = d.char := (List.cons.inj hlexeme).1
    cases d <;> exact absurd hopening (by decide)
  | _ =>
    obtain rfl := (List.cons.inj hlexeme).1
    exact absurd hopening (by decide)

/-- **Where a literal is never closed, no lexer accepts.** -/
theorem refuses_of_hard {refusal : Refusal} (h : lexLiteral text = .error refusal)
    (hhard : refusal.hard = true) {lexer : Lexer Token} (hmem : lexer ∈ tokenLexers) :
    ∃ reason, lexer text = .error reason := by
  -- the text begins with the opening of a literal
  have hopening : text.head? = some '~' ∨ text.head? = some '\x7b' := by
    by_contra hother
    rw [not_or] at hother
    obtain ⟨soft, hsoft, hfalse⟩ := leaves_lexLiteral hother.1 hother.2
    obtain rfl := Except.error.inj (h.symm.trans hsoft)
    rw [hhard] at hfalse
    cases hfalse
  cases hlexer : lexer text with
  | error reason => exact ⟨reason, rfl⟩
  | ok taken =>
    exfalso
    obtain ⟨sort, hsort⟩ := mem_tokenLexers_iff.mp hmem
    obtain ⟨token, lexeme, rest⟩ := taken
    obtain ⟨htext, hlexeme, -⟩ := takes_of_accepted hmem hlexer
    change text = lexeme ++ rest at htext
    change Lexeme token lexeme at hlexeme
    -- so the token is a literal, and it was the lexer for literals that has read it
    obtain ⟨c, more, rfl⟩ := List.exists_cons_of_ne_nil hlexeme.ne_nil
    have hc : c = '~' ∨ c = '\x7b' := by
      rw [htext, List.cons_append, List.head?_cons, Option.some_inj, Option.some_inj] at hopening
      exact hopening
    obtain rfl : sort = .literal := (TokenSort.gives hsort text _ hlexer).symm.trans (hlexeme.sort_eq_literal hc)
    obtain rfl := List.mem_singleton.mp hsort
    rw [h] at hlexer
    cases hlexer

/-! ### Orders -/

/-- **The lexers go together** on every text. -/
theorem concur_tokenLexers (text : List Char) : Concur tokenLexers text := by
  intro lexer hlexer taken htaken other hother
  cases hanswer : other text with
  | ok taken' =>
    obtain rfl := taken_eq_of_accepted hlexer hother htaken hanswer
    exact Or.inl rfl
  | error refusal =>
    apply Or.inr
    obtain ⟨sort, hsort⟩ := mem_tokenLexers_iff.mp hother
    by_cases hliteral : sort = .literal
    · subst hliteral
      obtain rfl := List.mem_singleton.mp hsort
      refine ⟨refusal, hanswer, ?_⟩
      -- had it refused for good, the text would not have been accepted
      by_contra hhard
      rw [Bool.not_eq_false] at hhard
      obtain ⟨reason, hreason⟩ := refuses_of_hard hanswer hhard hlexer
      rw [htaken] at hreason
      cases hreason
    · exact (TokenSort.mild hliteral hsort).leaves hanswer

/-- **The order of the lexers** is of no importance to what is accepted. -/
theorem lexToken_perm {lexers : List (Lexer Token)} (h : lexers.Perm tokenLexers) (text : List Char)
    (taken : Taken Token) : firstOf lexers text = .ok taken ↔ lexToken text = .ok taken := by
  have hconcur : Concur tokenLexers text := concur_tokenLexers text
  calc firstOf lexers text = .ok taken
      ↔ ∃ lexer ∈ lexers, lexer text = .ok taken := (hconcur.perm h).firstOf_eq_ok_iff taken
    _ ↔ ∃ lexer ∈ tokenLexers, lexer text = .ok taken := by simp only [h.mem_iff]
    _ ↔ lexToken text = .ok taken := (hconcur.firstOf_eq_ok_iff taken).symm

/-! ### Scanners -/

/-- Splits a text into tokens as `scanLoop` does, with any lexer for the tokens. -/
def scanLoopBy (lexer : Lexer Token) : (fuel : Nat) → Position → List Char → (done : List PlacedToken) →
    Except ScanError (List PlacedToken) × Position
  | 0, place, _, done => (.ok done.reverse, place)
  | _ + 1, place, [], done => (.ok done.reverse, place)
  | fuel + 1, place, text@(_ :: _), done =>
    match lexer text with
    | .ok taken =>
      let next := place.advance taken.lexeme
      scanLoopBy lexer fuel next taken.rest (⟨taken.value, place.to next⟩ :: done)
    | .error refusal => (.error ⟨place, text, refusal.trace⟩, place)

/-- Splits a text into tokens from a position on, with any lexer for the tokens. -/
def scanBy (lexer : Lexer Token) (place : Position) (text : List Char) :
    Except ScanError (List PlacedToken) × Position :=
  scanLoopBy lexer text.length place text []

/-- The scanner is one of these. -/
theorem scanBy_lexToken (place : Position) (text : List Char) : scanBy lexToken place text = scan place text := by
  have hloop : ∀ fuel place text done, scanLoopBy lexToken fuel place text done = scanLoop fuel place text done := by
    intro fuel
    induction fuel with
    | zero => exact fun _ _ _ => rfl
    | succ fuel ih =>
      intro place text done
      cases text with
      | nil => rfl
      | cons c more =>
        unfold scanLoopBy scanLoop
        cases lexToken (c :: more) with
        | ok taken => exact ih _ _ _
        | error refusal => rfl
  exact hloop text.length place text []

/-- What a scanner answers apart from the trace of its last attempt: the tokens, or where and before which text it
stopped, and the position reached. -/
def untraced (answer : Except ScanError (List PlacedToken) × Position) :
    Except (Position × List Char) (List PlacedToken) × Position :=
  (answer.1.mapError fun e => (e.place, e.rest), answer.2)

/-- **Scanners with lexers that accept the same** differ in their traces at most. -/
theorem scanLoopBy_congr {lexer other : Lexer Token}
    (h : ∀ text taken, lexer text = .ok taken ↔ other text = .ok taken) (fuel : Nat) (place : Position)
    (text : List Char) (done : List PlacedToken) :
    untraced (scanLoopBy lexer fuel place text done) = untraced (scanLoopBy other fuel place text done) := by
  induction fuel generalizing place text done with
  | zero => rfl
  | succ fuel ih =>
    cases text with
    | nil => rfl
    | cons c more =>
      unfold scanLoopBy
      cases hlexer : lexer (c :: more) with
      | ok taken =>
        rw [(h (c :: more) taken).mp hlexer]
        exact ih _ _ _
      | error refusal =>
        cases hother : other (c :: more) with
        | ok taken =>
          -- what one refuses the other refuses
          rw [(h (c :: more) taken).mpr hother] at hlexer
          cases hlexer
        | error refusal' => rfl

/-- **The order of the lexers** is of no importance to the tokens of a text, and neither to the place where the
scanner stops. -/
theorem scanBy_perm {lexers : List (Lexer Token)} (h : lexers.Perm tokenLexers) (place : Position)
    (text : List Char) : untraced (scanBy (firstOf lexers) place text) = untraced (scan place text) := by
  rw [← scanBy_lexToken]
  exact scanLoopBy_congr (lexToken_perm h) text.length place text []

theorem ok_iff_of_untraced {answer other : Except ScanError (List PlacedToken) × Position}
    (h : untraced answer = untraced other) (placed : List PlacedToken) :
    answer.1 = .ok placed ↔ other.1 = .ok placed := by
  have hmap : ∀ result : Except ScanError (List PlacedToken),
      result = .ok placed ↔ (result.mapError fun e => (e.place, e.rest)) = .ok placed := by
    intro result
    cases result with
    | error e => exact ⟨nofun, nofun⟩
    | ok tokens => exact ⟨fun hok => congrArg _ hok, fun hok => congrArg _ (Except.ok.inj hok)⟩
  have hfirst := congrArg Prod.fst h
  rw [hmap answer.1, hmap other.1]
  exact Eq.congr hfirst rfl

/-- **The lexers never compete.** No two lexers accept the same text unless both are for words; and the two that are
for words recognize the keyword in the same texts and take the same off them. What is accepted begins with at least
one character of the token, and what is left is the end of the text. A literal that is refused for good is refused by
all lexers. So in whatever order the lexers are tried, from any place on a text is split into the same tokens, or the
scanner stops at the same place. -/
theorem lexers_never_compete :
    (∀ (text : List Char) (sort sort' : TokenSort) (lexer other : Lexer Token) (taken taken' : Taken Token),
      lexer ∈ sort.lexers → other ∈ sort'.lexers → lexer text = .ok taken → other text = .ok taken' →
        sort = sort') ∧
      (∀ (text : List Char) (taken : Taken Token),
        lexKeyword text = .ok taken ↔
          lexIdentifier text = .ok taken ∧ ∃ word : Keyword, taken.value = .keyword word) ∧
      (∀ lexer ∈ tokenLexers, ∀ (text : List Char) (taken : Taken Token), lexer text = .ok taken →
        taken.lexeme ≠ [] ∧ text = taken.lexeme ++ taken.rest) ∧
      (∀ (text : List Char) (refusal : Refusal), lexLiteral text = .error refusal → refusal.hard = true →
        ∀ lexer ∈ tokenLexers, ∃ reason, lexer text = .error reason) ∧
      ∀ lexers : List (Lexer Token), lexers.Perm tokenLexers → ∀ (place : Position) (text : List Char),
        untraced (scanBy (firstOf lexers) place text) = untraced (scan place text) ∧
          ∀ placed, (scanBy (firstOf lexers) place text).1 = .ok placed ↔ (scan place text).1 = .ok placed := by
  refine ⟨?_, ?_, ?_, ?_, ?_⟩
  · intro text sort sort' lexer other taken taken' hlexer hother h h'
    exact sort_eq_of_accepted hlexer hother h h'
  · intro text taken
    exact lexKeyword_iff_lexIdentifier
  · intro lexer hmem text taken h
    have htakes : Takes text taken := takes_of_accepted hmem h
    exact ⟨htakes.lexeme.ne_nil, htakes.text_eq⟩
  · intro text refusal h hhard lexer hmem
    exact refuses_of_hard h hhard hmem
  · intro lexers hperm place text
    have hsame := scanBy_perm hperm place text
    exact ⟨hsame, ok_iff_of_untraced hsame⟩

end RuleText
