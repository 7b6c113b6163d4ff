import RuleText.Proofs.Regex.Syntax.Escape
import RuleText.Regex.Syntax.Bracket

/-!
# Bracketed classes in front of the closing anchor

A bracketed class ends with its closing bracket, and whatever its readers look ahead for is a bracket, a
hyphen or an operator, none of which is a closing parenthesis. The readers of brackets carry fuel, which is
measured by the text they were given; so what is shown is that they do the same with two amounts of fuel,
as long as both exceed their texts.

Main statements:

- `readClassItem_extends`: one character, interval or named class;
- `readBracketStart_extends`: what may stand only at the start of a bracket;
- `readBracket_local`: a whole class.
-/

namespace RuleText.Regex

/-! ### Items -/

/-- The name of a class of ASCII, and what closes it. -/
private def asciiName (negated : Bool) (text : List Char) : Option (Bool × CharClass × List Char) :=
  match text.span (· != ':') with
  | (name, ':' :: ']' :: after) =>
    (CharClass.ascii? (String.ofList name)).map fun cls => (negated, cls, after)
  | _ => none

private theorem readAsciiClass_negated (rest : List Char) :
    readAsciiClass (':' :: '^' :: rest) = asciiName true rest :=
  rfl

private theorem readAsciiClass_plain {rest : List Char} (h : ∀ more, rest ≠ '^' :: more) :
    readAsciiClass (':' :: rest) = asciiName false rest := by
  rw [readAsciiClass]
  · rfl
  · exact h

private theorem asciiName_append (negated : Bool) (text : List Char) :
    asciiName negated (text ++ anchorEnd) =
      (asciiName negated text).map fun answer => (answer.1, answer.2.1, answer.2.2 ++ anchorEnd) := by
  rw [asciiName, asciiName]
  rcases hspan : text.span (· != ':') with ⟨name, rest⟩
  cases rest with
  | nil =>
    -- without a colon the name runs on through the anchor
    rw [span_append_of_run hspan (by decide)]
    rfl
  | cons c tail =>
    rw [span_append_of_cons hspan]
    -- the name ends at a colon, and what decides is the character behind it
    obtain ⟨-, -, hc⟩ := span_eq_iff.mp hspan
    obtain rfl : c = ':' := by simpa using hc c rfl
    cases tail with
    | nil => rfl
    | cons d after =>
      by_cases hd : d = ']'
      · subst hd
        simp only [List.cons_append, Option.map_map]
        rfl
      · simp [hd]

private theorem asciiName_length {negated : Bool} {text : List Char}
    {answer : Bool × CharClass × List Char} (h : asciiName negated text = some answer) :
    answer.2.2.length < text.length := by
  rw [asciiName] at h
  split at h
  · rename_i name after hspan
    obtain ⟨rfl, -, -⟩ := span_eq_iff.mp hspan
    obtain ⟨cls, -, rfl⟩ := Option.map_eq_some_iff.mp h
    simp only [List.length_append, List.length_cons]
    omega
  · simp at h

/-- A class of ASCII, or none of them. -/
theorem readAsciiClass_append (text : List Char) :
    readAsciiClass (text ++ anchorEnd) =
      (readAsciiClass text).map fun answer => (answer.1, answer.2.1, answer.2.2 ++ anchorEnd) := by
  cases text with
  | nil => rfl
  | cons c rest =>
    by_cases hc : c = ':'
    · subst hc
      cases rest with
      | nil => exact asciiName_append false []
      | cons d more =>
        by_cases hd : d = '^'
        · subst hd
          exact asciiName_append true more
        · have hplain : ∀ tail more', d :: tail ≠ '^' :: more' := fun _ _ heq =>
            hd (List.cons.inj heq).1
          rw [List.cons_append, List.cons_append, readAsciiClass_plain (hplain _),
            readAsciiClass_plain (hplain _)]
          exact asciiName_append false (d :: more)
    · simp [readAsciiClass, hc]

theorem readAsciiClass_length {text : List Char} {answer : Bool × CharClass × List Char}
    (h : readAsciiClass text = some answer) : answer.2.2.length < text.length := by
  cases text with
  | nil => simp [readAsciiClass] at h
  | cons c rest =>
    rw [List.length_cons]
    by_cases hc : c = ':'
    · subst hc
      by_cases hcaret : ∃ more, rest = '^' :: more
      · obtain ⟨more, rfl⟩ := hcaret
        rw [readAsciiClass_negated] at h
        have hlen := asciiName_length h
        rw [List.length_cons]
        omega
      · rw [readAsciiClass_plain fun more heq => hcaret ⟨more, heq⟩] at h
        exact Nat.lt_succ_of_lt (asciiName_length h)
    · simp [readAsciiClass, hc] at h

/-- A character or an escape takes at least one character. -/
theorem readClassAtom_length {flags : Flags} {text rest : List Char} {atom : Atom}
    (h : readClassAtom flags text = some (atom, rest)) : rest.length < text.length := by
  cases text with
  | nil => simp [readClassAtom] at h
  | cons c more =>
    rw [readClassAtom] at h
    rw [List.length_cons, Nat.lt_succ_iff]
    split at h
    · exact (readEscape_local flags _ _ _ h).1
    · obtain ⟨rfl, rfl⟩ := Prod.mk.inj (Option.some.inj h)
      exact Nat.le_refl _

theorem readClassAtom_local (flags : Flags) : Local (readClassAtom flags) := by
  intro text atom rest h
  cases text with
  | nil => simp [readClassAtom] at h
  | cons c more =>
    rw [List.cons_append, readClassAtom]
    rw [readClassAtom] at h
    split at h
    · rw [if_pos ‹_›]
      exact (readEscape_local flags).behind _ h
    · rw [if_neg ‹_›]
      exact (Local.pure _).behind _ h

/-- Looking past layout for a closing bracket or a hyphen gives the same answer: where the text alone has
ended, the longer one goes on with neither. -/
theorem peekPastLayout_extends (flags : Flags) {text text' : List Char} (h : Extends text text')
    {d : Char} (hd : isWhite d = false) (hparen : d ≠ ')') (hmark : d ≠ '#') :
    peekPastLayout flags text' = some d ↔ peekPastLayout flags text = some d := by
  cases h with
  | swallowed => exact Iff.rfl
  | kept =>
    -- where the text has ended, the longer one shows a closing parenthesis
    have hparen' : some ')' ≠ some d := fun heq => hparen (Option.some.inj heq).symm
    rw [peekPastLayout, peekPastLayout]
    by_cases hextended : flags.extended = true
    · rw [if_pos hextended, if_pos hextended, dropWhile_isWhite_append]
      -- a text that begins with `d` has no layout in front
      have hstart : text.head? = some d → (text.dropWhile isWhite).head? = some d := by
        intro hhead
        cases text with
        | nil => simp at hhead
        | cons c rest =>
          obtain rfl : c = d := by simpa using hhead
          simp [hd]
      cases hinner : text.dropWhile isWhite with
      | nil =>
        rw [hinner] at hstart
        refine ⟨fun heq => absurd heq hparen', fun heq => ?_⟩
        simpa using hstart heq
      | cons c rest =>
        rw [hinner] at hstart
        simp only [List.cons_append]
        by_cases hc : c = '#'
        · subst hc
          simp only [bne_self_eq_false, dropWhile_isWhite_append]
          cases rest.dropWhile isWhite with
          | nil =>
            refine ⟨fun heq => absurd heq hparen', fun heq => ?_⟩
            exact absurd (Option.some.inj (hstart heq)).symm hmark
          | cons e more => exact Iff.rfl
        · simp [hc]
    · rw [if_neg hextended, if_neg hextended]
      cases text with
      | nil => exact ⟨fun heq => absurd heq hparen', fun heq => by simp at heq⟩
      | cons c rest => exact Iff.rfl

/-- Whether a hyphen behind a character makes an interval is decided the same way. -/
theorem standsAlone_extends (flags : Flags) (c : Char) (more : List Char) :
    (c != '-' || peekPastLayout flags (more ++ anchorEnd) == some ']' ||
        peekPastLayout flags (more ++ anchorEnd) == some '-') =
      (c != '-' || peekPastLayout flags more == some ']' || peekPastLayout flags more == some '-') := by
  have hbracket := peekPastLayout_extends flags (.kept more) (d := ']') (by decide) (by decide)
    (by decide)
  have hhyphen := peekPastLayout_extends flags (.kept more) (d := '-') (by decide) (by decide)
    (by decide)
  rw [Bool.eq_iff_iff]
  simp only [Bool.or_eq_true, beq_iff_eq, hbracket, hhyphen]

/-- **A character, an interval or a named class.** It takes at least one character. -/
theorem readClassItem_extends {flags : Flags} {text rest : List Char} {cls : CharClass}
    (h : readClassItem flags text = some (cls, rest)) :
    rest.length < text.length ∧
      ∃ rest', readClassItem flags (text ++ anchorEnd) = some (cls, rest') ∧ Extends rest rest' := by
  rw [readClassItem] at h ⊢
  obtain ⟨⟨first, after⟩, hfirst, h⟩ := Option.bind_eq_some_iff.mp h
  -- the first character is read from the text, and leaves the anchor at the end
  have hlen := readClassAtom_length hfirst
  obtain ⟨-, after', hfirst', hafter⟩ := readClassAtom_local flags _ _ _ hfirst
  have hlayout := extends_skipLayout flags hafter
  have hlength := length_skipLayout_le flags after
  rw [hfirst', Option.bind_eq_bind, Option.bind_some]
  simp only at h ⊢
  -- what stands behind the first character decides whether it begins an interval
  cases hinner : skipLayout flags after with
  | nil => simp [hinner] at h
  | cons c more =>
    rw [hinner] at h hlayout hlength
    rw [hlayout.cons_left]
    simp only [standsAlone_extends] at h ⊢
    rw [List.length_cons] at hlength
    split at h
    · -- the item ends here
      rename_i halone
      rw [if_pos halone]
      split at h
      · obtain ⟨a, ha, heq⟩ := Option.bind_eq_some_iff.mp h
        obtain ⟨rfl, rfl⟩ := Prod.mk.inj (Option.some.inj heq)
        refine ⟨by rw [List.length_cons]; omega, _, ?_, .kept _⟩
        simp [ha]
      · obtain ⟨rfl, rfl⟩ := Prod.mk.inj (Option.some.inj h)
        exact ⟨by rw [List.length_cons]; omega, _, rfl, .kept _⟩
      · simp at h
    · -- an interval
      rename_i halone
      rw [if_neg halone]
      obtain ⟨⟨last, behind⟩, hlast, h⟩ := Option.bind_eq_some_iff.mp h
      have hlen' := readClassAtom_length hlast
      have hlength' := length_skipLayout_le flags more
      obtain ⟨behind', hlast', hbehind⟩ := (readClassAtom_local flags).extends
        (extends_skipLayout flags (.kept more)) hlast
      rw [hlast', Option.bind_eq_bind, Option.bind_some]
      simp only at h ⊢
      split at h
      · simp only [Option.bind_eq_bind, Option.bind_eq_some_iff] at h
        obtain ⟨a, ha, b, hb, heq⟩ := h
        split at heq
        · rename_i hle
          obtain ⟨rfl, rfl⟩ := Prod.mk.inj (Option.some.inj heq)
          refine ⟨by omega, behind', ?_, hbehind⟩
          simp [ha, hb, hle]
        · simp at heq
      · simp at h

/-! ### The start of a bracket -/

theorem readHyphens_of_ne (flags : Flags) (fuel : Nat) (level : ClassLevel) {text : List Char}
    (h : ∀ rest, text ≠ '-' :: rest) : readHyphens flags fuel level text = (level, text) := by
  rw [readHyphens]
  intro _ rest _ heq
  exact h rest heq

theorem readHyphens_extends (flags : Flags) (fuel fuel' : Nat) (level : ClassLevel)
    {text text' : List Char} (htext : Extends text text') (hfuel : text.length ≤ fuel)
    (hfuel' : text'.length ≤ fuel') :
    (readHyphens flags fuel level text).2.length ≤ text.length ∧
      (readHyphens flags fuel' level text').1 = (readHyphens flags fuel level text).1 ∧
      Extends (readHyphens flags fuel level text).2 (readHyphens flags fuel' level text').2 := by
  by_cases hhyphen : ∃ rest, text = '-' :: rest
  · obtain ⟨rest, rfl⟩ := hhyphen
    obtain rfl := htext.cons_left
    have hlength := length_skipLayout_le flags rest
    have hlayout := extends_skipLayout flags (.kept rest)
    have hlength' := length_skipLayout_le flags (rest ++ anchorEnd)
    rw [List.length_cons] at hfuel hfuel'
    -- both amounts of fuel are enough for one more hyphen
    obtain ⟨fuel, rfl⟩ := Nat.exists_eq_add_of_le' (Nat.le_trans (Nat.le_add_left 1 _) hfuel)
    obtain ⟨fuel', rfl⟩ := Nat.exists_eq_add_of_le' (Nat.le_trans (Nat.le_add_left 1 _) hfuel')
    have ih := readHyphens_extends flags fuel fuel'
      (level.push (flags.closeCase (.single '-'))) hlayout (by omega) (by omega)
    rw [readHyphens, readHyphens, List.length_cons]
    exact ⟨Nat.le_succ_of_le (ih.1.trans hlength), ih.2⟩
  · have hne : ∀ rest, text ≠ '-' :: rest := fun rest heq => hhyphen ⟨rest, heq⟩
    -- no hyphen comes with the anchor
    have hne' := htext.not_cons (by decide) hne
    rw [readHyphens_of_ne flags fuel level hne, readHyphens_of_ne flags fuel' level hne']
    exact ⟨Nat.le_refl _, rfl, htext⟩
termination_by fuel

/-- A closing bracket that stands for itself, behind the hyphens. -/
private def closingFirst (flags : Flags) (answer : ClassLevel × List Char) :
    ClassLevel × List Char :=
  match answer with
  | (level, ']' :: rest) =>
    if level.count = 0 then
      (level.push (flags.closeCase (.single ']')), skipLayout flags rest)
    else (level, ']' :: rest)
  | answer => answer

private theorem readBracketStart_negated {flags : Flags} {text rest : List Char}
    (h : skipLayout flags text = '^' :: rest) (fuel : Nat) :
    readBracketStart flags fuel text =
      closingFirst flags
        (readHyphens flags fuel { negated := true } (skipLayout flags rest)) := by
  unfold readBracketStart
  rw [h]
  rfl

private theorem readBracketStart_plain {flags : Flags} {text : List Char}
    (h : ∀ rest, skipLayout flags text ≠ '^' :: rest) (fuel : Nat) :
    readBracketStart flags fuel text =
      closingFirst flags (readHyphens flags fuel {} (skipLayout flags text)) := by
  unfold readBracketStart
  split
  rename_i heq
  split at heq
  · rename_i rest hcaret
    exact absurd hcaret (h rest)
  · obtain ⟨rfl, rfl⟩ := Prod.mk.inj heq
    rfl

private theorem closingFirst_extends (flags : Flags) (level : ClassLevel) {text text' : List Char}
    (htext : Extends text text') :
    (closingFirst flags (level, text)).2.length ≤ text.length ∧
      (closingFirst flags (level, text')).1 = (closingFirst flags (level, text)).1 ∧
      Extends (closingFirst flags (level, text)).2 (closingFirst flags (level, text')).2 := by
  by_cases hbracket : ∃ rest, text = ']' :: rest
  · obtain ⟨rest, rfl⟩ := hbracket
    obtain rfl := htext.cons_left
    simp only [closingFirst]
    by_cases hcount : level.count = 0
    · rw [if_pos hcount, if_pos hcount]
      exact ⟨Nat.le_succ_of_le (length_skipLayout_le flags rest), rfl,
        extends_skipLayout flags (.kept rest)⟩
    · rw [if_neg hcount, if_neg hcount]
      exact ⟨Nat.le_refl _, rfl, .kept (']' :: rest)⟩
  · have hne : ∀ rest, text ≠ ']' :: rest := fun rest heq => hbracket ⟨rest, heq⟩
    have hne' := htext.not_cons (by decide) hne
    have hsame : ∀ text : List Char, (∀ rest, text ≠ ']' :: rest) →
        closingFirst flags (level, text) = (level, text) := by
      intro text hno
      unfold closingFirst
      split
      · rename_i heq
        exact absurd (Prod.mk.inj heq).2 (hno _)
      · rfl
    rw [hsame text hne, hsame text' hne']
    exact ⟨Nat.le_refl _, rfl, htext⟩

/-- **The start of a bracket.** -/
theorem readBracketStart_extends (flags : Flags) (fuel fuel' : Nat) {text text' : List Char}
    (htext : Extends text text') (hfuel : text.length ≤ fuel) (hfuel' : text'.length ≤ fuel') :
    (readBracketStart flags fuel text).2.length ≤ text.length ∧
      (readBracketStart flags fuel' text').1 = (readBracketStart flags fuel text).1 ∧
      Extends (readBracketStart flags fuel text).2 (readBracketStart flags fuel' text').2 := by
  -- the hyphens and what follows them, from behind the negation
  have hbehind : ∀ (level : ClassLevel) {inner inner' : List Char}, Extends inner inner' →
      inner.length ≤ text.length → inner'.length ≤ text'.length →
      (closingFirst flags (readHyphens flags fuel level inner)).2.length ≤ text.length ∧
        (closingFirst flags (readHyphens flags fuel' level inner')).1 =
          (closingFirst flags (readHyphens flags fuel level inner)).1 ∧
        Extends (closingFirst flags (readHyphens flags fuel level inner)).2
          (closingFirst flags (readHyphens flags fuel' level inner')).2 := by
    intro level inner inner' hinner hle hle'
    obtain ⟨hlen, hlevel, hext⟩ :=
      readHyphens_extends flags fuel fuel' level hinner (hle.trans hfuel) (hle'.trans hfuel')
    generalize readHyphens flags fuel level inner = answer at *
    generalize readHyphens flags fuel' level inner' = answer' at *
    obtain ⟨level₁, rest⟩ := answer
    obtain ⟨level₂, rest'⟩ := answer'
    obtain rfl : level₂ = level₁ := hlevel
    obtain ⟨hlen', hrest⟩ := closingFirst_extends flags level₂ hext
    exact ⟨hlen'.trans (hlen.trans hle), hrest⟩
  have hlayout := extends_skipLayout flags htext
  have hlength := length_skipLayout_le flags text
  have hlength' := length_skipLayout_le flags text'
  by_cases hcaret : ∃ rest, skipLayout flags text = '^' :: rest
  · -- a caret is a negation, and is not brought by the anchor
    obtain ⟨rest, hrest⟩ := hcaret
    have hrest' : skipLayout flags text' = '^' :: (rest ++ anchorEnd) := by
      rw [hrest] at hlayout
      exact hlayout.cons_left
    rw [readBracketStart_negated hrest, readBracketStart_negated hrest']
    rw [hrest, List.length_cons] at hlength
    rw [hrest', List.length_cons] at hlength'
    have hle := length_skipLayout_le flags rest
    have hle' := length_skipLayout_le flags (rest ++ anchorEnd)
    exact hbehind _ (extends_skipLayout flags (.kept rest)) (by omega) (by omega)
  · have hne : ∀ rest, skipLayout flags text ≠ '^' :: rest := fun rest heq => hcaret ⟨rest, heq⟩
    have hne' := hlayout.not_cons (by decide) hne
    rw [readBracketStart_plain hne, readBracketStart_plain hne']
    exact hbehind _ hlayout hlength hlength'

/-! ### Brackets -/

/-- An item is read where no bracket and no operator stands, and there the longer text has none
either. -/
theorem readBrackets_item {flags : Flags} {fuel : Nat} {outer : List ClassLevel}
    {here : ClassLevel} {text : List Char} {c : Char} {more : List Char}
    (hlayout : skipLayout flags text = c :: more) (hopen : c ≠ '[') (hclose : c ≠ ']')
    (hoperator : ∀ d ∈ ['&', '-', '~'], c = d → more.head? ≠ some d) :
    readBrackets flags (fuel + 1) outer here text =
      (readClassItem flags (c :: more)).bind fun answer =>
        readBrackets flags fuel outer (here.push answer.1) answer.2 := by
  rw [readBrackets, hlayout]
  split
  · rename_i heq
    simp at heq
  · rename_i heq
    exact absurd (List.cons.inj heq).1 hopen
  · rename_i heq
    exact absurd (List.cons.inj heq).1 hclose
  · rename_i heq
    obtain ⟨rfl, rfl⟩ := List.cons.inj heq
    exact absurd rfl (hoperator '&' (by decide) rfl)
  · rename_i heq
    obtain ⟨rfl, rfl⟩ := List.cons.inj heq
    exact absurd rfl (hoperator '-' (by decide) rfl)
  · rename_i heq
    obtain ⟨rfl, rfl⟩ := List.cons.inj heq
    exact absurd rfl (hoperator '~' (by decide) rfl)
  · rfl

/-- The closing anchor makes no operator of the character before it. -/
theorem not_operator_append {c : Char} {more : List Char}
    (h : ∀ d ∈ ['&', '-', '~'], c = d → more.head? ≠ some d) :
    ∀ d ∈ ['&', '-', '~'], c = d → (more ++ anchorEnd).head? ≠ some d := by
  intro d hd heq
  cases more with
  | nil =>
    have hparen : ∀ d ∈ ['&', '-', '~'], anchorEnd.head? ≠ some d := by
      simp [anchorEnd]
    exact hparen d hd
  | cons e tail => exact h d hd heq

/-- From any place with fewer than `bound` characters left, the inside of brackets is read alike, each text
with its own fuel. -/
private def BracketsExtend (flags : Flags) (fuel fuel' bound : Nat) (cls : DeepClass)
    (rest : List Char) : Prop :=
  ∀ {outer : List ClassLevel} {here : ClassLevel} {after after' : List Char},
    Extends after after' → after.length < bound →
      readBrackets flags fuel outer here after = some (cls, rest) →
        rest.length ≤ bound ∧
          ∃ rest', readBrackets flags fuel' outer here after' = some (cls, rest') ∧ Extends rest rest'

section Round

/-! One round at a character that is there in both texts, if the rounds after it read alike. -/

variable {flags : Flags} {fuel fuel' : Nat} {outer : List ClassLevel} {here : ClassLevel}
  {text text' more rest : List Char} {cls : DeepClass}
  (hnext : BracketsExtend flags fuel fuel' (more.length + 1) cls rest)

include hnext

/-- A class of ASCII, or one bracket more on the stack. -/
private theorem readBrackets_opening (hfuel : more.length ≤ fuel)
    (hfuel' : (more ++ anchorEnd).length ≤ fuel') (hinner : skipLayout flags text = '[' :: more)
    (hinner' : skipLayout flags text' = '[' :: (more ++ anchorEnd))
    (h : readBrackets flags (fuel + 1) outer here text = some (cls, rest)) :
    rest.length ≤ more.length + 1 ∧
      ∃ rest', readBrackets flags (fuel' + 1) outer here text' = some (cls, rest') ∧
        Extends rest rest' := by
  rw [readBrackets, hinner] at h
  rw [readBrackets, hinner']
  simp only [readAsciiClass_append] at h ⊢
  cases hascii : readAsciiClass more with
  | some answer =>
    obtain ⟨negated, named, after⟩ := answer
    have hlt := readAsciiClass_length hascii
    simp only [hascii, Option.bind_eq_bind, Option.bind_eq_some_iff] at h
    obtain ⟨closed, hclosed, h⟩ := h
    simp only [Option.map_some, hclosed, Option.bind_eq_bind, Option.bind_some]
    exact hnext (.kept after) (Nat.lt_succ_of_lt hlt) h
  | none =>
    rw [hascii] at h
    obtain ⟨hstart, hlevel, hext⟩ :=
      readBracketStart_extends flags fuel fuel' (.kept more) hfuel hfuel'
    simp only [Option.map_none] at h ⊢
    rw [hlevel]
    exact hnext hext (Nat.lt_succ_of_le hstart) h

/-- The innermost class is an item of the one around it, or the whole class. -/
private theorem readBrackets_closing (hinner : skipLayout flags text = ']' :: more)
    (hinner' : skipLayout flags text' = ']' :: (more ++ anchorEnd))
    (h : readBrackets flags (fuel + 1) outer here text = some (cls, rest)) :
    rest.length ≤ more.length + 1 ∧
      ∃ rest', readBrackets flags (fuel' + 1) outer here text' = some (cls, rest') ∧
        Extends rest rest' := by
  rw [readBrackets, hinner] at h
  rw [readBrackets, hinner']
  simp only [Option.bind_eq_bind, Option.bind_eq_some_iff] at h
  obtain ⟨closed, hclosed, h⟩ := h
  simp only [hclosed, Option.bind_eq_bind, Option.bind_some]
  cases outer with
  | nil =>
    obtain ⟨rfl, rfl⟩ := Prod.mk.inj (Option.some.inj h)
    exact ⟨Nat.le_succ _, _, rfl, .kept more⟩
  | cons parent outer => exact hnext (.kept more) (Nat.lt_succ_self _) h

/-- An operator is written with its character twice. -/
private theorem readBrackets_operator {c : Char} (hc : c ∈ ['&', '-', '~'])
    (hhead : more.head? = some c) (hinner : skipLayout flags text = c :: more)
    (hinner' : skipLayout flags text' = c :: (more ++ anchorEnd))
    (h : readBrackets flags (fuel + 1) outer here text = some (cls, rest)) :
    rest.length ≤ more.length + 1 ∧
      ∃ rest', readBrackets flags (fuel' + 1) outer here text' = some (cls, rest') ∧
        Extends rest rest' := by
  obtain ⟨tail, rfl⟩ := List.head?_eq_some_iff.mp hhead
  have hlt : tail.length < (c :: tail).length + 1 := Nat.lt_succ_of_lt (Nat.lt_succ_self _)
  rw [readBrackets, hinner] at h
  rw [readBrackets, hinner']
  simp only [List.mem_cons, List.not_mem_nil, or_false] at hc
  rcases hc with rfl | rfl | rfl
  · exact hnext (.kept tail) hlt h
  · exact hnext (.kept tail) hlt h
  · exact hnext (.kept tail) hlt h

/-- Anything else is an item. The closing parenthesis behind the text makes no operator of it either. -/
private theorem readBrackets_other {c : Char} (hopen : c ≠ '[') (hclose : c ≠ ']')
    (hoperator : ∀ d ∈ ['&', '-', '~'], c = d → more.head? ≠ some d)
    (hinner : skipLayout flags text = c :: more)
    (hinner' : skipLayout flags text' = c :: (more ++ anchorEnd))
    (h : readBrackets flags (fuel + 1) outer here text = some (cls, rest)) :
    rest.length ≤ more.length + 1 ∧
      ∃ rest', readBrackets flags (fuel' + 1) outer here text' = some (cls, rest') ∧
        Extends rest rest' := by
  rw [readBrackets_item hinner hopen hclose hoperator] at h
  rw [readBrackets_item hinner' hopen hclose (not_operator_append hoperator)]
  obtain ⟨⟨item, after⟩, hread, h⟩ := Option.bind_eq_some_iff.mp h
  obtain ⟨hlt, after', hread', hafter⟩ := readClassItem_extends hread
  rw [List.cons_append] at hread'
  rw [hread', Option.bind_some]
  exact hnext hafter hlt h

end Round

/-- The inside of brackets, with enough fuel for each of the two texts. -/
theorem readBrackets_extends (flags : Flags) (fuel fuel' : Nat) {outer : List ClassLevel}
    {here : ClassLevel} {text text' rest : List Char} {cls : DeepClass} (htext : Extends text text')
    (hfuel : text.length < fuel) (hfuel' : text'.length < fuel')
    (h : readBrackets flags fuel outer here text = some (cls, rest)) :
    rest.length ≤ text.length ∧
      ∃ rest', readBrackets flags fuel' outer here text' = some (cls, rest') ∧ Extends rest rest' := by
  -- the induction is on the fuel of the shorter text, with any brackets open
  induction fuel generalizing fuel' outer here text text' with
  | zero => simp [readBrackets] at h
  | succ fuel ih =>
    obtain ⟨fuel', rfl⟩ := Nat.exists_eq_add_of_le' (Nat.one_le_of_lt hfuel')
    have hlayout := extends_skipLayout flags htext
    have hlength := length_skipLayout_le flags text
    have hlength' := length_skipLayout_le flags text'
    cases hinner : skipLayout flags text with
    | nil => simp [readBrackets, hinner] at h
    | cons c more =>
      rw [hinner] at hlayout hlength
      have hinner' := hlayout.cons_left
      rw [List.length_cons] at hlength
      rw [hinner', List.length_cons] at hlength'
      -- every round takes something, so the rounds after it have enough fuel
      have hnext : BracketsExtend flags fuel fuel' (more.length + 1) cls rest := by
        intro outer here after after' hafter hlt h
        have hshorter := hafter.length_le
        have hlonger : (more ++ anchorEnd).length = more.length + 2 := List.length_append
        obtain ⟨hle, hrest⟩ := ih fuel' hafter (by omega) (by omega) h
        exact ⟨by omega, hrest⟩
      -- what the character does decides the round, and each kind has its own lemma
      have hround : rest.length ≤ more.length + 1 ∧
          ∃ rest', readBrackets flags (fuel' + 1) outer here text' = some (cls, rest') ∧
            Extends rest rest' := by
        by_cases hopen : c = '['
        · subst hopen
          exact readBrackets_opening hnext (by omega) (by omega) hinner hinner' h
        · by_cases hclose : c = ']'
          · subst hclose
            exact readBrackets_closing hnext hinner hinner' h
          · by_cases hoperator : ∃ d ∈ ['&', '-', '~'], c = d ∧ more.head? = some d
            · obtain ⟨d, hd, rfl, hhead⟩ := hoperator
              exact readBrackets_operator hnext hd hhead hinner hinner' h
            · have hitem : ∀ d ∈ ['&', '-', '~'], c = d → more.head? ≠ some d :=
                fun d hd heq hhead => hoperator ⟨d, hd, heq, hhead⟩
              exact readBrackets_other hnext hopen hclose hitem hinner hinner' h
      exact ⟨hround.1.trans hlength, hround.2⟩

/-- **A bracketed class.** -/
theorem readBracket_local (flags : Flags) {bound bound' : Nat} {text rest : List Char}
    {cls : DeepClass} (hbound : text.length < bound) (hbound' : text.length + 2 < bound')
    (h : readBracket flags bound text = some (cls, rest)) :
    rest.length ≤ text.length ∧
      ∃ rest', readBracket flags bound' (text ++ anchorEnd) = some (cls, rest') ∧
        Extends rest rest' := by
  have hlonger : (text ++ anchorEnd).length = text.length + 2 := List.length_append
  obtain ⟨hstart, hlevel, hext⟩ := readBracketStart_extends flags bound bound' (.kept text)
    (by omega) (by omega)
  have hshorter := hext.length_le
  change readBrackets flags bound [] (readBracketStart flags bound text).1
    (readBracketStart flags bound text).2 = some (cls, rest) at h
  obtain ⟨hle, hrest⟩ := readBrackets_extends flags bound bound' hext (by omega) (by omega) h
  rw [← hlevel] at hrest
  exact ⟨hle.trans hstart, hrest⟩

end RuleText.Regex
