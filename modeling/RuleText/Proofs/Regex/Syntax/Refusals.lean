import RuleText.Proofs.Regex.Syntax.Escape

/-!
# What is refused in front of the closing anchor

The readers of the parts of a pattern take off a text alone what they take off it between anchors. Here it
is the other way round: what they refuse alone they refuse between anchors too. That is less than certain,
because a text may end where something is still owed, and then the closing anchor is there to pay for it.
Its parenthesis can end a change of flags, and it can be the character that a backslash makes a literal of.
But whoever takes that parenthesis takes the only one there is behind the pattern and leaves a dollar, and
the group that the opening anchor has opened can then no longer be closed.

One reader stops short instead. Behind a word boundary an opening brace begins a name, and a text that ends
there is refused; before a parenthesis the brace is taken for a repetition and left unread. What is left
then begins with a brace that no count follows, and that is refused in the next round.

Main definition:

- `Refusing`: a reader that refuses alike, or takes the parenthesis.

Main statements:

- `readOpening_refusing`, `readCounts_append_eq_none`: openings of groups and bounds of repetitions;
- `readProperty_refusing`, `readCode_append_eq_none`: properties and codes of characters;
- `readEscape_refuses`: escapes.
-/

namespace RuleText.Regex

/-- A reader that refuses a text in front of the closing anchor too if it refuses it alone, or else takes
the parenthesis of the anchor, so that the dollar is left. -/
def Refusing {α : Type} (read : List Char → Option (α × List Char)) : Prop :=
  ∀ text x rest, read text = none → read (text ++ anchorEnd) = some (x, rest) → rest = ['$']

/-! ### Text with layout in it -/

theorem skipLayout_dollar (flags : Flags) : skipLayout flags ['$'] = ['$'] := by
  rw [skipLayout]
  split <;> rfl

/-! ### Openings of groups -/

/-- Flags that have not ended may end with the parenthesis of the anchor. -/
theorem readFlags_refuses {seen change : FlagChange} {negated dangling isGroup : Bool}
    {text rest : List Char} (h : readFlags seen negated dangling text = none)
    (h' : readFlags seen negated dangling (text ++ anchorEnd) = some (change, isGroup, rest)) :
    rest = ['$'] := by
  fun_induction readFlags seen negated dangling text with
  | case1 seen negated dangling =>
    cases dangling with
    | true => cases h'
    | false =>
      have heq : some (seen.reverse, false, ['$']) = some (change, isGroup, rest) := h'
      exact (Prod.mk.inj (Prod.mk.inj (Option.some.inj heq)).2).2.symm
  | case2 seen negated tail => cases h'
  | case3 seen negated dangling tail hd => cases h
  | case4 seen negated tail => cases h'
  | case5 seen negated dangling tail hd => cases h
  | case6 seen dangling tail => cases h'
  | case7 seen negated dangling tail hn ih =>
    simp only [List.cons_append, readFlags, hn] at h'
    exact ih h h'
  | case8 seen negated dangling c tail h1 h2 h3 hflag => simp [readFlags, hflag] at h'
  | case9 seen negated dangling c tail h1 h2 h3 flag hflag hseen =>
    simp [readFlags, hflag, hseen] at h'
  | case10 seen negated dangling c tail h1 h2 h3 flag hflag hseen ih =>
    simp only [List.cons_append, readFlags, hflag, hseen] at h'
    exact ih h h'

/-- What flags make of a group is refused, or made, without a look at what stands behind them. -/
theorem openingOfFlags_refusing : Refusing openingOfFlags := by
  intro text opening rest h h'
  rw [openingOfFlags] at h h'
  cases hflags : readFlags [] false false text with
  | none =>
    obtain ⟨⟨change, isGroup, after⟩, hflags', h'⟩ := Option.bind_eq_some_iff.mp h'
    obtain rfl := readFlags_refuses hflags hflags'
    simp only at h'
    split at h'
    · exact (Prod.mk.inj (Option.some.inj h')).2.symm
    · split at h'
      · cases h'
      · exact (Prod.mk.inj (Option.some.inj h')).2.symm
  | some answer =>
    obtain ⟨change, isGroup, after⟩ := answer
    rw [hflags, Option.bind_some] at h
    rw [(readFlags_append hflags).1, Option.bind_some] at h'
    simp only at h h'
    split at h
    · cases h
    · rw [if_neg ‹_›] at h'
      split at h
      · rw [if_pos ‹_›] at h'
        cases h'
      · cases h

/-- **The opening of a group.** Only flags can end with the parenthesis of the anchor. -/
theorem readOpening_refusing (flags : Flags) : Refusing (readOpening flags) := by
  intro text opening rest h h'
  have hlayout := extends_skipLayout flags (.kept text)
  by_cases hmark : ∃ more, skipLayout flags text = '?' :: more
  · obtain ⟨more, hinner⟩ := hmark
    rw [hinner] at hlayout
    have hinner' := hlayout.cons_left
    cases more with
    | nil =>
      -- neither flags nor a name between the mark and the parenthesis
      rw [readOpening_flags hinner' (by decide) (by decide)] at h'
      cases h'
    | cons c tail =>
      rw [List.cons_append] at hinner'
      by_cases hname : c = 'P'
      · subst hname
        -- a group with a name
        obtain ⟨behind', hbehind'⟩ := readOpening_name_head hinner' h'
        have htail : Extends tail ('<' :: behind') := hbehind' ▸ Extends.kept tail
        obtain ⟨behind, rfl⟩ := htail.cons_right (by decide)
        rw [readOpening_name hinner, Option.map_eq_none_iff] at h
        rw [List.cons_append] at hinner'
        rw [readOpening_name hinner', readGroupName_append, h] at h'
        cases h'
      · by_cases hshort : c = '<'
        · subst hshort
          -- a group with a name, written without the letter
          obtain ⟨d, behind', hbehind', hequal, hmark⟩ := readOpening_shortName_head hinner' h'
          have hname : readGroupName (d :: behind') = none := by
            rw [← hbehind', readGroupName_append, Option.map_eq_none_iff]
            cases tail with
            | nil => rfl
            | cons e behind =>
              obtain rfl : e = d := (List.cons.inj hbehind').1
              rw [readOpening_shortName hinner hequal hmark, Option.map_eq_none_iff] at h
              exact h
          rw [hbehind'] at hinner'
          rw [readOpening_shortName hinner' hequal hmark, hname] at h'
          cases h'
        · -- flags, in front of a group or by themselves
          rw [readOpening_flags hinner hname hshort] at h
          rw [readOpening_flags hinner' hname hshort] at h'
          exact openingOfFlags_refusing _ _ _ h h'
  · -- a group without a name is never refused
    have hne : ∀ more, skipLayout flags text ≠ '?' :: more := fun more heq => hmark ⟨more, heq⟩
    rw [readOpening_plain hne] at h
    cases h

/-! ### Counted repetitions -/

theorem readCount_eq_none_of_extends {flags : Flags} {text text' : List Char}
    (htext : Extends text text') (h : readCount flags text = none) : readCount flags text' = none := by
  cases htext with
  | swallowed => exact h
  | kept =>
    obtain ⟨-, after', heq, -⟩ := takeLayoutFree_extends (p := Char.isDigit) (by decide)
      flags.extended false (text.dropWhile isWhite)
    rw [readCount] at h ⊢
    rw [dropWhile_isWhite_append, heq]
    simp only at h ⊢
    -- the digits are the same, and they alone decide
    split at h
    · rw [if_pos ‹_›]
    · cases h

/-- The second number of a repetition, and the brace behind it. -/
private def upperCount (flags : Flags) (least : Nat) (text : List Char) :
    Option (Nat × Option Nat × List Char) :=
  (readCount flags text).bind fun answer =>
    match answer.2 with
    | '}' :: rest => if least ≤ answer.1 then some (least, some answer.1, rest) else none
    | _ => none

private theorem upperCount_eq_none_of_extends {flags : Flags} {least : Nat} {text text' : List Char}
    (htext : Extends text text') (h : upperCount flags least text = none) :
    upperCount flags least text' = none := by
  cases hcount : readCount flags text with
  | none =>
    rw [upperCount, readCount_eq_none_of_extends htext hcount]
    rfl
  | some answer =>
    obtain ⟨most, rest⟩ := answer
    obtain ⟨rest', hcount', hrest⟩ := (readCount_local flags).extends htext hcount
    rw [upperCount, hcount, Option.bind_some] at h
    rw [upperCount, hcount', Option.bind_some]
    simp only at h ⊢
    split at h
    · -- the numbers are the same, and in the wrong order
      obtain rfl := hrest.cons_left
      split at h
      · cases h
      · exact if_neg ‹_›
    · rename_i hopen
      split
      · exact absurd rfl (hrest.not_cons (by decide) hopen _)
      · rfl

/-- **The bounds of a repetition.** The closing brace does not come with the anchor. -/
theorem readCounts_append_eq_none {flags : Flags} {text : List Char}
    (h : readCounts flags text = none) : readCounts flags (text ++ anchorEnd) = none := by
  have hlayout := extends_skipLayout flags (.kept text)
  cases hfirst : readCount flags (skipLayout flags text) with
  | none =>
    -- without a first number nothing has been read
    have hfirst' := readCount_eq_none_of_extends hlayout hfirst
    rw [readCounts, hfirst']
    rfl
  | some answer =>
    obtain ⟨least, tail⟩ := answer
    obtain ⟨tail', hfirst', htail⟩ := (readCount_local flags).extends hlayout hfirst
    -- with one, what comes behind it has been refused
    rw [readCounts, hfirst] at h
    rw [readCounts, hfirst']
    simp only [Option.bind_eq_bind, Option.bind_some] at h ⊢
    cases tail with
    | nil =>
      -- neither a brace nor a comma comes with the anchor
      rcases htail.nil_left with rfl | rfl
      · rfl
      · rfl
    | cons c more =>
      obtain rfl := htail.cons_left
      by_cases hbrace : c = '}'
      · -- a closing brace would have been taken
        subst hbrace
        cases h
      · by_cases hcomma : c = ','
        · -- a comma and a second number, which the anchor does not make any better
          subst hcomma
          have hlayout' := extends_skipLayout flags (.kept more)
          simp only at h ⊢
          generalize skipLayout flags more = inner at *
          generalize skipLayout flags (more ++ anchorEnd) = inner' at *
          split at h
          · cases h
          · rename_i hno
            split
            · exact absurd rfl (hlayout'.not_cons (by decide) hno _)
            · exact upperCount_eq_none_of_extends hlayout' h
        · split
          · exact absurd (List.cons.inj ‹_›).1 hbrace
          · exact absurd (List.cons.inj ‹_›).1 hcomma
          · rfl

/-! ### Escapes -/

theorem takeHexDigits_eq_none_of_extends {flags : Flags} {count : Nat} {text text' : List Char}
    (htext : Extends text text') (h : takeHexDigits flags count text = none) :
    takeHexDigits flags count text' = none := by
  induction count generalizing text text' with
  | zero => cases h
  | succ count ih =>
    rw [takeHexDigits] at h ⊢
    have hlayout := extends_skipLayout flags htext
    generalize skipLayout flags text = inner at *
    generalize skipLayout flags text' = inner' at *
    cases inner with
    | nil =>
      -- a parenthesis is no digit
      rcases hlayout.nil_left with rfl | rfl
      · rfl
      · rfl
    | cons c tail =>
      obtain rfl := hlayout.cons_left
      simp only at h ⊢
      split at h
      · rw [if_pos ‹_›]
        rw [Option.map_eq_none_iff] at h ⊢
        exact ih (.kept tail) h
      · rw [if_neg ‹_›]

/-- The code of a character is refused for its digits, which all stand before the anchor. -/
theorem readCode_append_eq_none {flags : Flags} {count : Nat} {text : List Char}
    (h : readCode flags count text = none) : readCode flags count (text ++ anchorEnd) = none := by
  rw [readCode] at h ⊢
  have hlayout := extends_skipLayout flags (.kept text)
  -- only the layout in front of the digits depends on what follows
  generalize skipLayout flags text = inner at *
  generalize skipLayout flags (text ++ anchorEnd) = inner' at *
  split at h
  · -- digits in braces: the brace that closes them is in the text, or is missing in both
    rename_i tail
    obtain rfl := hlayout.cons_left
    simp only [takeBraced_append] at h ⊢
    cases hbraced : takeBraced flags.extended false tail with
    | none => rfl
    | some answer =>
      obtain ⟨digits, after⟩ := answer
      rw [hbraced] at h
      simp only [Option.map_some, Option.bind_eq_bind, Option.bind_some] at h ⊢
      split at h
      · rw [if_pos ‹_›]
      · rw [if_neg ‹_›]
        simpa using h
  · -- a fixed number of digits, none of which the anchor adds
    rename_i hbrace
    split
    · exact absurd rfl (hlayout.not_cons (by decide) hbrace _)
    · cases hdigits : takeHexDigits flags count inner with
      | none =>
        rw [takeHexDigits_eq_none_of_extends hlayout hdigits]
        rfl
      | some answer =>
        -- digits that are no character are refused whatever follows them
        obtain ⟨digits, after⟩ := answer
        obtain ⟨after', hdigits', -⟩ := (takeHexDigits_local flags count).extends hlayout hdigits
        rw [hdigits] at h
        rw [hdigits']
        simpa using h

/-- The last step of reading a property does not look at what stands behind it. -/
private theorem property_eq_none {flags : Flags} {negated : Bool} {named : CharClass}
    {after : List Char} (after' : List Char)
    (h : (if flags.unicode = true then
        (flags.negate? negated (flags.closeCase named)).bind fun closed => some (closed, after)
      else none) = none) :
    (if flags.unicode = true then
        (flags.negate? negated (flags.closeCase named)).bind fun closed => some (closed, after')
      else none) = none := by
  split at h
  · rw [if_pos ‹_›]
    rw [Option.bind_eq_none_iff] at h ⊢
    intro closed hclosed
    cases h closed hclosed
  · exact if_neg ‹_›

/-- A property that one letter names ends behind the layout after it. -/
theorem readProperty_letter {flags : Flags} {negated : Bool} {text tail rest : List Char} {c : Char}
    {cls : CharClass} (hlayout : skipLayout flags text = c :: tail) (hbrace : c ≠ '{')
    (h : readProperty flags negated text = some (cls, rest)) : rest = skipLayout flags tail := by
  rw [readProperty, hlayout] at h
  split at h
  · cases h
  · exact absurd (List.cons.inj ‹_›).1 hbrace
  · rename_i heq
    obtain ⟨rfl, rfl⟩ := List.cons.inj heq
    split at h
    · cases h
    · simp only [Option.bind_eq_bind, Option.bind_eq_some_iff, Option.some.injEq,
        exists_eq_left'] at h
      obtain ⟨named, -, h⟩ := h
      exact ((property_eq_some_iff flags _ _ _ _ _).mp h).2.2.symm

/-- The name of a property stands before the anchor, if it is there at all, and it alone decides. -/
theorem readProperty_append_eq_none {flags : Flags} {negated : Bool} {text : List Char}
    (hname : skipLayout flags text ≠ []) (h : readProperty flags negated text = none) :
    readProperty flags negated (text ++ anchorEnd) = none := by
  rw [readProperty] at h ⊢
  -- the name begins at the same character, since there is one
  have hlayout := extends_skipLayout flags (.kept text)
  generalize skipLayout flags text = inner at *
  generalize skipLayout flags (text ++ anchorEnd) = inner' at *
  split at h
  · exact absurd rfl hname
  · -- a name between braces
    rename_i tail
    obtain rfl := hlayout.cons_left
    simp only [takeBraced_append] at h ⊢
    cases hbraced : takeBraced flags.extended false tail with
    -- the brace is not closed, and the anchor does not close it
    | none => rfl
    | some answer =>
      obtain ⟨name, after⟩ := answer
      rw [hbraced] at h
      simp only [Option.map_some, Option.bind_eq_bind, Option.bind_some] at h ⊢
      cases hnamed : propertyClass? name with
      | none => rfl
      | some named =>
        rw [hnamed] at h
        exact property_eq_none _ h
  · -- a name of one letter
    rename_i c tail hbrace
    obtain rfl := hlayout.cons_left
    split
    · rfl
    · exact absurd (List.cons.inj ‹_›).1 hbrace
    · rename_i heq
      obtain ⟨rfl, rfl⟩ := List.cons.inj heq
      split at h
      · rw [if_pos ‹_›]
        rfl
      · rw [if_neg ‹_›]
        cases hnamed : CharClass.named? [c] with
        | none => rfl
        | some named =>
          rw [hnamed] at h
          exact property_eq_none _ h

/-- Where its name is missing, a property could only be named by the parenthesis. -/
theorem readProperty_refusing (flags : Flags) (negated : Bool) :
    Refusing (readProperty flags negated) := by
  intro text cls rest h h'
  have hlayout := extends_skipLayout flags (.kept text)
  cases hinner : skipLayout flags text with
  | nil =>
    rw [hinner] at hlayout
    rcases hlayout.nil_left with hinner' | hinner'
    · rw [readProperty_letter hinner' (by decide) h', skipLayout_dollar]
    · rw [readProperty, hinner'] at h'
      cases h'
  | cons c tail =>
    have hname : skipLayout flags text ≠ [] := hinner ▸ List.cons_ne_nil c tail
    rw [readProperty_append_eq_none hname h] at h'
    cases h'

/-- Behind a word boundary a brace is left unread before the anchor, but no count follows it. -/
theorem readWordAssertion_refuses {flags : Flags} {text rest : List Char} {claim : Assertion}
    (h : readWordAssertion flags text = none)
    (h' : readWordAssertion flags (text ++ anchorEnd) = some (claim, rest)) :
    ∃ tail, rest = '{' :: tail ∧ readCounts flags tail = none := by
  rw [readWordAssertion.eq_def] at h h'
  split at h
  · -- a brace with nothing behind it: the text is cut short, and with the anchor it is not
    rename_i tail
    have hlayout := extends_skipLayout flags (.kept tail)
    simp only [List.cons_append] at h h'
    cases hinner : skipLayout flags tail with
    | nil =>
      rw [hinner] at hlayout
      rcases hlayout.nil_left with hinner' | hinner'
      · rw [hinner'] at h'
        obtain ⟨-, rfl⟩ := Prod.mk.inj (Option.some.inj h')
        refine ⟨tail ++ anchorEnd, rfl, ?_⟩
        -- then the brace is left for counts, and no number begins with the anchor
        have hcount : readCount flags anchorEnd = none :=
          readCount_eq_none_of_extends (.kept []) rfl
        rw [readCounts, hinner', hcount]
        rfl
      · rw [hinner'] at h'
        cases h'
    | cons c more =>
      -- otherwise the text itself begins the name
      rw [hinner] at h hlayout
      rw [hlayout.cons_left] at h'
      simp only at h h'
      split at h
      · -- a name that is none, or is not closed, is no better before the anchor
        exfalso
        rw [if_pos ‹_›] at h'
        obtain ⟨-, after', heq, hext⟩ := takeLayoutFree_extends
          (p := fun c => c.isAlpha || c == '-') (by decide) flags.extended false (c :: more)
        rw [List.cons_append] at heq
        rw [heq] at h'
        generalize takeLayoutFree (fun c => c.isAlpha || c == '-') flags.extended false
          (c :: more) = run at *
        obtain ⟨name, after⟩ := run
        simp only at h h' hext
        split at h'
        · rename_i hrun
          obtain ⟨rfl, rfl⟩ := Prod.mk.inj hrun
          obtain ⟨behind, rfl⟩ := hext.cons_right (by decide)
          simp only at h
          split at h' <;> simp_all
        · cases h'
      · cases h
  · cases h

theorem eq_none_of_bind_some {α β : Type} {answer : Option α} {f : α → β}
    (h : (answer.bind fun x => some (f x)) = none) : answer = none := by
  cases answer with
  | none => rfl
  | some x => cases h

/-- **Escapes.** A backslash at the end makes a literal of the parenthesis. -/
theorem readEscape_refuses {flags : Flags} {text rest : List Char} {atom : Atom}
    (h : readEscape flags text = none)
    (h' : readEscape flags (text ++ anchorEnd) = some (atom, rest)) :
    rest = ['$'] ∨
      ∃ claim tail, atom = .assertion claim ∧ rest = '{' :: tail ∧ readCounts flags tail = none := by
  cases text with
  | nil =>
    -- a backslash at the end takes the parenthesis of the anchor
    have heq : some (Atom.char ')' false, ['$']) = some (atom, rest) := h'
    exact Or.inl (Prod.mk.inj (Option.some.inj heq)).2.symm
  | cons c tail =>
    rw [List.cons_append] at h'
    simp only [readEscape] at h h'
    split at h
    case h_1 | h_2 | h_3 =>
      -- a code stays incomplete
      rw [readCode_append_eq_none h] at h'
      cases h'
    case h_4 | h_5 =>
      obtain ⟨⟨named, after⟩, hnamed, heq⟩ := Option.bind_eq_some_iff.mp h'
      obtain ⟨-, rfl⟩ := Prod.mk.inj (Option.some.inj heq)
      -- the name of a property may be the parenthesis, too
      exact Or.inl (readProperty_refusing _ _ _ _ _ (eq_none_of_bind_some h) hnamed)
    case h_6 | h_7 | h_8 | h_9 | h_10 | h_11 =>
      -- a letter without a class has none whatever stands behind it
      rw [eq_none_of_bind_some h] at h'
      cases h'
    case h_20 =>
      obtain ⟨⟨claim, after⟩, hclaim, heq⟩ := Option.bind_eq_some_iff.mp h'
      obtain ⟨rfl, rfl⟩ := Prod.mk.inj (Option.some.inj heq)
      -- and an assertion may be made out of one that has been broken off
      obtain ⟨behind, hrest⟩ := readWordAssertion_refuses (eq_none_of_bind_some h) hclaim
      exact Or.inr ⟨claim, behind, rfl, hrest⟩
    case h_24 =>
      split at h
      · cases h
      · rename_i hliteral
        simp [hliteral] at h'
    all_goals cases h

end RuleText.Regex
