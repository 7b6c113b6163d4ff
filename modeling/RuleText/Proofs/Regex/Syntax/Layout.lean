import RuleText.Proofs.Text.Cut
import RuleText.Regex.Syntax.Group

/-!
# Reading a pattern with its closing anchor behind it

A pattern is put between anchors as text, so the readers of its parts see `)$` behind it. They must not
notice: a reader that takes something off the pattern alone takes the same off the longer text, and what it
leaves is the same with `)$` behind it. There is one exception. In an extended pattern a comment may run on
to the end; then the closing anchor is part of the comment, and nothing is left of either text.

`Extends` is this relation between what is left of the two texts. The reason why no reader notices is the
same everywhere: a closing parenthesis is no layout, no digit, no letter, and not one of the characters that
readers look ahead for.

Main statements:

- `extends_skipLayout`, `takeLayoutFree_extends`, `takeBraced_append`: layout, and text with layout in it;
- `readOpening_local`: what follows an opening parenthesis;
- `readCounts_local`: the bounds of a repetition.
-/

namespace RuleText.Regex

/-- What stands behind a pattern that is put between anchors. -/
def anchorEnd : List Char := [')', '$']

/-- What is left of a text, and of the same text with the closing anchor behind it. -/
inductive Extends : List Char → List Char → Prop where
  | kept (rest : List Char) : Extends rest (rest ++ anchorEnd)
  /-- A comment has run on to the end. -/
  | swallowed : Extends [] []

namespace Extends

/-- A character that is left of the text is left of the longer text too. -/
theorem cons_left {c : Char} {rest rest' : List Char} (h : Extends (c :: rest) rest') :
    rest' = c :: (rest ++ anchorEnd) := by
  cases h
  rfl

/-- Where the text has ended, the longer one has ended too or goes on with the closing parenthesis. -/
theorem nil_left {rest' : List Char} (h : Extends [] rest') : rest' = anchorEnd ∨ rest' = [] := by
  cases h
  · exact Or.inl rfl
  · exact Or.inr rfl

/-- A character other than the closing parenthesis has been there without it. -/
theorem cons_right {c : Char} {rest more : List Char} (h : Extends rest (c :: more)) (hc : c ≠ ')') :
    ∃ tail, rest = c :: tail := by
  cases rest with
  | nil =>
    rcases h.nil_left with heq | heq
    · exact absurd (List.cons.inj heq).1 hc
    · simp at heq
  | cons d tail =>
    have heq := h.cons_left
    rw [(List.cons.inj heq).1]
    exact ⟨tail, rfl⟩

/-- Looking for any other character behind the text gives the same answer as in the text. -/
theorem not_cons {c : Char} {rest rest' : List Char} (h : Extends rest rest') (hc : c ≠ ')')
    (hno : ∀ more, rest ≠ c :: more) (more : List Char) : rest' ≠ c :: more := by
  rintro rfl
  obtain ⟨tail, rfl⟩ := h.cons_right hc
  exact hno tail rfl

theorem length_eq {rest rest' : List Char} (h : Extends rest rest') (hrest : rest ≠ []) :
    rest'.length = rest.length + 2 := by
  cases h
  · exact List.length_append
  · exact absurd rfl hrest

theorem length_le {rest rest' : List Char} (h : Extends rest rest') :
    rest'.length ≤ rest.length + 2 := by
  cases h
  · rw [List.length_append]
    exact Nat.le_refl _
  · exact Nat.zero_le _

end Extends

/-- A reader that does not notice the closing anchor behind a text: if it takes something off the text
alone, it takes the same off the longer one. -/
def Local {α : Type} (read : List Char → Option (α × List Char)) : Prop :=
  ∀ text x rest, read text = some (x, rest) →
    rest.length ≤ text.length ∧
      ∃ rest', read (text ++ anchorEnd) = some (x, rest') ∧ Extends rest rest'

/-- A local reader may also begin where a comment has run on to the end. -/
theorem Local.extends {α : Type} {read : List Char → Option (α × List Char)} (hread : Local read)
    {text text' rest : List Char} {x : α} (htext : Extends text text')
    (h : read text = some (x, rest)) : ∃ rest', read text' = some (x, rest') ∧ Extends rest rest' := by
  obtain ⟨hlen, hlonger⟩ := hread text x rest h
  cases htext with
  | kept => exact hlonger
  | swallowed =>
    obtain rfl : rest = [] := List.length_eq_zero_iff.mp (Nat.le_zero.mp hlen)
    exact ⟨[], h, .swallowed⟩

/-- What a local reader takes off both texts is the same. -/
theorem Local.agree {α : Type} {read : List Char → Option (α × List Char)} (hread : Local read)
    {text text' rest rest' : List Char} {x y : α} (htext : Extends text text')
    (h : read text = some (x, rest)) (h' : read text' = some (y, rest')) :
    y = x ∧ Extends rest rest' := by
  obtain ⟨after', hlonger, hafter⟩ := hread.extends htext h
  rw [h'] at hlonger
  obtain ⟨rfl, rfl⟩ := Prod.mk.inj (Option.some.inj hlonger)
  exact ⟨rfl, hafter⟩

namespace Local

variable {α β : Type} {read : List Char → Option (α × List Char)}

/-- A reader that takes nothing, and refuses or not without looking. -/
theorem ofOption (answer : Option β) (f : β → α) :
    Local fun text => answer.bind fun y => some (f y, text) := by
  intro text x rest h
  obtain ⟨y, hy, heq⟩ := Option.bind_eq_some_iff.mp h
  obtain ⟨rfl, rfl⟩ := Prod.mk.inj (Option.some.inj heq)
  refine ⟨Nat.le_refl _, _, ?_, .kept text⟩
  rw [hy]
  rfl

theorem pure (x : α) : Local fun text => some (x, text) :=
  ofOption (some x) id

/-- A reader whose answer is changed. -/
theorem map (hread : Local read) (f : α → β) :
    Local fun text => (read text).bind fun answer => some (f answer.1, answer.2) := by
  intro text y rest h
  obtain ⟨⟨x, after⟩, hx, heq⟩ := Option.bind_eq_some_iff.mp h
  obtain ⟨rfl, rfl⟩ := Prod.mk.inj (Option.some.inj heq)
  obtain ⟨hlen, after', hx', hext⟩ := hread text x after hx
  refine ⟨hlen, after', ?_, hext⟩
  simp only [hx', Option.bind_some]

/-- A reader behind a character that has been looked at. -/
theorem behind (hread : Local read) (c : Char) {text rest : List Char} {x : α}
    (h : read text = some (x, rest)) :
    rest.length ≤ (c :: text).length ∧
      ∃ rest', read (text ++ anchorEnd) = some (x, rest') ∧ Extends rest rest' := by
  obtain ⟨hlen, hlonger⟩ := hread text x rest h
  exact ⟨Nat.le_succ_of_le hlen, hlonger⟩

end Local

/-! ### Layout -/

theorem length_dropLayout_le (inComment : Bool) (text : List Char) :
    (dropLayout inComment text).length ≤ text.length := by
  induction text generalizing inComment with
  | nil => exact Nat.le_refl 0
  | cons c rest ih =>
    rw [dropLayout]
    split
    · exact Nat.le_succ_of_le (ih _)
    · split
      · exact Nat.le_succ_of_le (ih _)
      · split
        · exact Nat.le_succ_of_le (ih _)
        · exact Nat.le_refl _

theorem length_skipLayout_le (flags : Flags) (text : List Char) :
    (skipLayout flags text).length ≤ text.length := by
  rw [skipLayout]
  split
  · exact length_dropLayout_le false text
  · exact Nat.le_refl _

theorem extends_dropLayout (inComment : Bool) (text : List Char) :
    Extends (dropLayout inComment text) (dropLayout inComment (text ++ anchorEnd)) := by
  induction text generalizing inComment with
  | nil =>
    -- within a comment the closing anchor is skipped too
    cases inComment with
    | false => exact .kept []
    | true => exact .swallowed
  | cons c rest ih =>
    rw [List.cons_append, dropLayout, dropLayout]
    split
    · exact ih _
    · split
      · exact ih _
      · split
        · exact ih _
        · exact .kept (c :: rest)

theorem skipLayout_anchorEnd (flags : Flags) : skipLayout flags anchorEnd = anchorEnd := by
  rw [skipLayout]
  split <;> rfl

@[simp] theorem skipLayout_nil (flags : Flags) : skipLayout flags [] = [] := by
  rw [skipLayout]
  split <;> rfl

/-- **Skipping layout.** -/
theorem extends_skipLayout (flags : Flags) {text text' : List Char} (h : Extends text text') :
    Extends (skipLayout flags text) (skipLayout flags text') := by
  cases h with
  | kept =>
    rw [skipLayout, skipLayout]
    split
    · exact extends_dropLayout false text
    · exact .kept text
  | swallowed =>
    rw [skipLayout_nil]
    exact .swallowed

theorem dropWhile_isWhite_append (text : List Char) :
    (text ++ anchorEnd).dropWhile isWhite = text.dropWhile isWhite ++ anchorEnd := by
  induction text with
  | nil => rfl
  | cons c rest ih =>
    rw [List.cons_append, List.dropWhile_cons, List.dropWhile_cons]
    split
    · exact ih
    · rfl

/-! ### Text with layout in it -/

/-- Text between braces does not depend on what follows the closing one, and the anchor closes none. -/
theorem takeBraced_append (extended inComment : Bool) (text : List Char) :
    takeBraced extended inComment (text ++ anchorEnd) =
      (takeBraced extended inComment text).map fun answer => (answer.1, answer.2 ++ anchorEnd) := by
  induction text generalizing inComment with
  | nil => cases extended <;> cases inComment <;> rfl
  | cons c rest ih =>
    rw [List.cons_append, takeBraced, takeBraced]
    split
    · exact ih _
    · split
      · exact ih _
      · split
        · exact ih _
        · split
          · rfl
          · rw [ih, Option.map_map, Option.map_map]
            rfl

theorem takeBraced_length {extended inComment : Bool} {text taken after : List Char}
    (h : takeBraced extended inComment text = some (taken, after)) : after.length < text.length := by
  induction text generalizing inComment taken with
  | nil => cases h
  | cons c rest ih =>
    rw [takeBraced] at h
    rw [List.length_cons]
    split at h
    · exact Nat.lt_succ_of_lt (ih h)
    · split at h
      · exact Nat.lt_succ_of_lt (ih h)
      · split at h
        · exact Nat.lt_succ_of_lt (ih h)
        · split at h
          · obtain ⟨-, rfl⟩ := Prod.mk.inj (Option.some.inj h)
            exact Nat.lt_succ_self _
          · obtain ⟨⟨taken', after'⟩, hrest, heq⟩ := Option.map_eq_some_iff.mp h
            obtain ⟨-, rfl⟩ := Prod.mk.inj heq
            exact Nat.lt_succ_of_lt (ih hrest)

/-- A run with layout in it ends before the closing parenthesis, if that is not of its kind. -/
theorem takeLayoutFree_extends {p : Char → Bool} (hp : p ')' = false) (extended inComment : Bool)
    (text : List Char) :
    (takeLayoutFree p extended inComment text).2.length ≤ text.length ∧
      ∃ after', takeLayoutFree p extended inComment (text ++ anchorEnd) =
          ((takeLayoutFree p extended inComment text).1, after') ∧
        Extends (takeLayoutFree p extended inComment text).2 after' := by
  induction text generalizing inComment with
  | nil =>
    refine ⟨Nat.le_refl 0, ?_⟩
    -- the run ends at the parenthesis, or a comment takes the anchor with it
    cases inComment with
    | true => exact ⟨[], rfl, .swallowed⟩
    | false =>
      refine ⟨anchorEnd, ?_, .kept []⟩
      cases extended <;> simp [takeLayoutFree, anchorEnd, hp, show isWhite ')' = false by decide]
  | cons c rest ih =>
    rw [List.cons_append, takeLayoutFree, takeLayoutFree, List.length_cons]
    split
    · exact ⟨Nat.le_succ_of_le (ih _).1, (ih _).2⟩
    · split
      · exact ⟨Nat.le_succ_of_le (ih _).1, (ih _).2⟩
      · split
        · exact ⟨Nat.le_succ_of_le (ih _).1, (ih _).2⟩
        · split
          · obtain ⟨hlen, after', heq, hext⟩ := ih false
            refine ⟨Nat.le_succ_of_le hlen, after', ?_, hext⟩
            rw [heq]
          · exact ⟨Nat.le_refl _, _, rfl, .kept (c :: rest)⟩

/-! ### Openings of groups -/

theorem readFlags_append {seen change : FlagChange} {negated dangling isGroup : Bool}
    {text rest : List Char}
    (h : readFlags seen negated dangling text = some (change, isGroup, rest)) :
    readFlags seen negated dangling (text ++ anchorEnd) = some (change, isGroup, rest ++ anchorEnd) ∧
      rest.length < text.length := by
  -- the flags end with a colon or a parenthesis of their own, so the anchor is never reached
  fun_induction readFlags seen negated dangling text with
  | case1 => simp at h
  | case2 seen negated tail => simp at h
  | case3 seen negated dangling tail hd =>
    obtain ⟨rfl, rfl, rfl⟩ := by simpa using h
    exact ⟨by simp [readFlags, hd], Nat.lt_succ_self _⟩
  | case4 seen negated tail => simp at h
  | case5 seen negated dangling tail hd =>
    obtain ⟨rfl, rfl, rfl⟩ := by simpa using h
    exact ⟨by simp [readFlags, hd], Nat.lt_succ_self _⟩
  | case6 seen dangling tail => simp at h
  | case7 seen negated dangling tail hn ih =>
    obtain ⟨heq, hlen⟩ := ih h
    exact ⟨by simp [readFlags, hn, heq], Nat.lt_succ_of_lt hlen⟩
  | case8 seen negated dangling c tail => simp at h
  | case9 seen negated dangling c tail => simp at h
  | case10 seen negated dangling c tail h1 h2 h3 flag hflag hseen ih =>
    obtain ⟨heq, hlen⟩ := ih h
    exact ⟨by simp [readFlags, hflag, hseen, heq], Nat.lt_succ_of_lt hlen⟩

/-- The name of a group ends with an angle bracket, and the anchor has none. -/
theorem readGroupName_append (text : List Char) :
    readGroupName (text ++ anchorEnd) =
      (readGroupName text).map fun answer => (answer.1, answer.2 ++ anchorEnd) := by
  rcases hspan : text.span (· != '>') with ⟨name, rest⟩
  cases rest with
  | nil =>
    rw [readGroupName, readGroupName, span_append_of_run hspan (by decide), hspan]
    cases text ++ anchorEnd <;> cases name <;> rfl
  | cons d tail =>
    rw [readGroupName, readGroupName, span_append_of_cons hspan, hspan]
    cases name with
    | nil => rfl
    | cons c more =>
      simp only
      split
      · rfl
      · rfl

theorem readGroupName_length {text rest : List Char} {name : String}
    (h : readGroupName text = some (name, rest)) : rest.length < text.length := by
  rw [readGroupName] at h
  split at h
  · rename_i hspan
    obtain ⟨rfl, -, -⟩ := span_eq_iff.mp hspan
    split at h
    · obtain ⟨-, rfl⟩ := Prod.mk.inj (Option.some.inj h)
      simp only [List.length_append, List.length_cons]
      omega
    · cases h
  · cases h

/-- The opening that flags make: a group with flags of its own, or a change of flags from here on. -/
def openingOfFlags (text : List Char) : Option (Opening × List Char) :=
  (readFlags [] false false text).bind fun answer =>
    if answer.2.1 then some (.group answer.1, answer.2.2)
    else if answer.1.isEmpty then none
    else some (.flags answer.1, answer.2.2)

private theorem openingOfFlags_append {text rest : List Char} {opening : Opening}
    (h : openingOfFlags text = some (opening, rest)) :
    rest.length < text.length ∧
      openingOfFlags (text ++ anchorEnd) = some (opening, rest ++ anchorEnd) := by
  rw [openingOfFlags] at h ⊢
  obtain ⟨⟨change, isGroup, after⟩, hflags, hrest⟩ := Option.bind_eq_some_iff.mp h
  obtain ⟨happend, hlt⟩ := readFlags_append hflags
  rw [happend]
  simp only [Option.bind_some] at hrest ⊢
  by_cases hgroup : isGroup = true
  · rw [if_pos hgroup] at hrest
    obtain ⟨rfl, rfl⟩ := Prod.mk.inj (Option.some.inj hrest)
    exact ⟨hlt, if_pos hgroup⟩
  · rw [if_neg hgroup] at hrest
    by_cases hempty : change.isEmpty = true
    · simp [hempty] at hrest
    · rw [if_neg hempty] at hrest
      obtain ⟨rfl, rfl⟩ := Prod.mk.inj (Option.some.inj hrest)
      exact ⟨hlt, (if_neg hgroup).trans (if_neg hempty)⟩

/-! The opening is decided by the characters at the front, which the four lemmas below tell apart. -/

section Front

variable {flags : Flags} {text : List Char}

theorem readOpening_name {rest : List Char} (h : skipLayout flags text = '?' :: 'P' :: '<' :: rest) :
    readOpening flags text = (readGroupName rest).map fun answer => (.recording answer.1, answer.2) := by
  rw [readOpening, h]
  rfl

theorem readOpening_shortName {d : Char} {rest : List Char}
    (h : skipLayout flags text = '?' :: '<' :: d :: rest) (hequal : d ≠ '=') (hmark : d ≠ '!') :
    readOpening flags text =
      (readGroupName (d :: rest)).map fun answer => (.recording answer.1, answer.2) := by
  rw [readOpening, h]
  split
  · simp_all
  · simp_all
  · simp_all
  · simp_all
  · rename_i hno heq
    exact absurd (List.cons.inj heq).2.symm (hno _)
  · rename_i hno
    exact absurd rfl (hno _)

theorem readOpening_flags {c : Char} {rest : List Char}
    (h : skipLayout flags text = '?' :: c :: rest) (hname : c ≠ 'P') (hshort : c ≠ '<') :
    readOpening flags text = openingOfFlags (c :: rest) := by
  rw [readOpening, h]
  split <;> simp_all [openingOfFlags]

theorem readOpening_plain (h : ∀ rest, skipLayout flags text ≠ '?' :: rest) :
    readOpening flags text = some (.recording none, skipLayout flags text) := by
  rw [readOpening]
  split
  · exact absurd ‹_› (h _)
  · exact absurd ‹_› (h _)
  · exact absurd ‹_› (h _)
  · exact absurd ‹_› (h _)
  · exact absurd ‹_› (h _)
  · rfl

variable {opening : Opening} {rest tail : List Char}

/-- No flag is written with the letter of a name. -/
theorem readOpening_name_head (h : skipLayout flags text = '?' :: 'P' :: tail)
    (hread : readOpening flags text = some (opening, rest)) : ∃ behind, tail = '<' :: behind := by
  rw [readOpening, h] at hread
  split at hread
  · rename_i heq
    exact ⟨_, (List.cons.inj (List.cons.inj heq).2).2⟩
  · simp at hread
  · simp at hread
  · simp_all
  · rename_i heq
    obtain ⟨-, rfl⟩ := List.cons.inj heq
    simp [readFlags, Flag.ofLetter?] at hread
  · rename_i hno
    exact absurd rfl (hno _)

/-- Behind the mark of a name there is one, and looking behind is refused. -/
theorem readOpening_shortName_head (h : skipLayout flags text = '?' :: '<' :: tail)
    (hread : readOpening flags text = some (opening, rest)) :
    ∃ d behind, tail = d :: behind ∧ d ≠ '=' ∧ d ≠ '!' := by
  rw [readOpening, h] at hread
  cases tail with
  | nil => simp [readGroupName] at hread
  | cons d behind =>
    refine ⟨d, behind, rfl, ?_, ?_⟩
    · rintro rfl
      simp at hread
    · rintro rfl
      simp at hread

end Front

/-- A group with a name reads alike, whichever way the name is introduced. -/
private theorem recording_append {tail rest : List Char} {opening : Opening}
    (h : (readGroupName tail).map (fun answer => (Opening.recording answer.1, answer.2)) =
      some (opening, rest)) :
    rest.length < tail.length ∧
      (readGroupName (tail ++ anchorEnd)).map (fun answer => (Opening.recording answer.1, answer.2)) =
        some (opening, rest ++ anchorEnd) := by
  obtain ⟨⟨name, after⟩, hname, heq⟩ := Option.map_eq_some_iff.mp h
  obtain ⟨rfl, rfl⟩ := Prod.mk.inj heq
  refine ⟨readGroupName_length hname, ?_⟩
  rw [readGroupName_append, hname]
  rfl

/-- **The opening of a group.** At most three characters decide which sort of group opens, and where the
pattern ends among them, it is refused. -/
theorem readOpening_local (flags : Flags) : Local (readOpening flags) := by
  intro text opening rest h
  have hlayout := extends_skipLayout flags (.kept text)
  have hlength := length_skipLayout_le flags text
  by_cases hmark : ∃ more, skipLayout flags text = '?' :: more
  · obtain ⟨more, hinner⟩ := hmark
    rw [hinner] at hlayout hlength
    have hinner' := hlayout.cons_left
    rw [List.length_cons] at hlength
    cases more with
    | nil => simp [readOpening, hinner, readFlags] at h
    | cons c tail =>
      rw [List.length_cons] at hlength
      by_cases hname : c = 'P'
      · subst hname
        -- a group with a name
        obtain ⟨behind, rfl⟩ := readOpening_name_head hinner h
        rw [readOpening_name hinner] at h
        rw [readOpening_name hinner']
        rw [List.length_cons] at hlength
        obtain ⟨hlt, happend⟩ := recording_append h
        exact ⟨by omega, _, happend, .kept rest⟩
      · by_cases hshort : c = '<'
        · subst hshort
          -- a group with a name, written without the letter
          obtain ⟨d, behind, rfl, hequal, hmark⟩ := readOpening_shortName_head hinner h
          rw [readOpening_shortName hinner hequal hmark] at h
          rw [readOpening_shortName hinner' hequal hmark]
          obtain ⟨hlt, happend⟩ := recording_append h
          exact ⟨by omega, _, happend, .kept rest⟩
        · -- flags, in front of a group or by themselves
          rw [readOpening_flags hinner hname hshort] at h
          rw [readOpening_flags hinner' hname hshort]
          obtain ⟨hlt, happend⟩ := openingOfFlags_append h
          rw [List.length_cons] at hlt
          exact ⟨by omega, _, happend, .kept rest⟩
  · have hne : ∀ more, skipLayout flags text ≠ '?' :: more := fun more heq => hmark ⟨more, heq⟩
    -- a group without a name
    rw [readOpening_plain hne] at h
    rw [readOpening_plain (hlayout.not_cons (by decide) hne)]
    obtain ⟨rfl, rfl⟩ := Prod.mk.inj (Option.some.inj h)
    exact ⟨hlength, _, rfl, hlayout⟩

/-! ### Counted repetitions -/

theorem readCount_local (flags : Flags) : Local (readCount flags) := by
  intro text value rest h
  rw [readCount] at h ⊢
  rw [dropWhile_isWhite_append]
  obtain ⟨hlen, after', heq, hext⟩ := takeLayoutFree_extends (p := Char.isDigit) (by decide)
    flags.extended false (text.dropWhile isWhite)
  have hwhite := length_dropWhile_le isWhite text
  rw [heq]
  generalize takeLayoutFree Char.isDigit flags.extended false (text.dropWhile isWhite) = run at *
  obtain ⟨digits, after⟩ := run
  simp only at h hlen hext ⊢
  split at h
  · simp at h
  · rename_i hvalid
    rw [if_neg hvalid]
    obtain ⟨rfl, rfl⟩ := Prod.mk.inj (Option.some.inj h)
    -- blanks behind the digits are layout in extended mode, and skipped by themselves otherwise
    by_cases hextended : flags.extended = true
    · simp only [hextended, if_true]
      exact ⟨hlen.trans hwhite, after', rfl, hext⟩
    · simp only [hextended]
      refine ⟨(length_dropWhile_le isWhite after).trans (hlen.trans hwhite), _, rfl, ?_⟩
      cases hext with
      | kept =>
        rw [dropWhile_isWhite_append]
        exact .kept _
      | swallowed => exact .swallowed

/-- **The bounds of a repetition.** They end with a closing brace, so the pattern goes on or ends behind
it. -/
theorem readCounts_local (flags : Flags) {text rest : List Char} {least : Nat} {most : Option Nat}
    (h : readCounts flags text = some (least, most, rest)) :
    rest.length ≤ text.length ∧
      readCounts flags (text ++ anchorEnd) = some (least, most, rest ++ anchorEnd) := by
  obtain ⟨⟨first, tail⟩, hfirst, hrest⟩ := Option.bind_eq_some_iff.mp h
  have hlayout := extends_skipLayout flags (.kept text)
  have hlength := length_skipLayout_le flags text
  have hlen := (readCount_local flags _ _ _ hfirst).1
  obtain ⟨tail', hfirst', htail⟩ := (readCount_local flags).extends hlayout hfirst
  rw [readCounts, hfirst']
  simp only [Option.bind_eq_bind, Option.bind_some] at hrest ⊢
  split at hrest
  · -- one number
    obtain rfl := htail.cons_left
    obtain ⟨rfl, rfl, rfl⟩ := by simpa using hrest
    simp only [List.length_cons] at hlen
    exact ⟨by omega, rfl⟩
  · -- a comma
    rename_i behind
    obtain rfl := htail.cons_left
    have hlayout' := extends_skipLayout flags (.kept behind)
    have hlength' := length_skipLayout_le flags behind
    simp only [List.length_cons] at hlen
    simp only
    generalize skipLayout flags behind = inner at *
    generalize skipLayout flags (behind ++ anchorEnd) = inner' at *
    split at hrest
    · -- no upper bound
      obtain rfl := hlayout'.cons_left
      obtain ⟨rfl, rfl, rfl⟩ := by simpa using hrest
      simp only [List.length_cons] at hlength'
      exact ⟨by omega, rfl⟩
    · rename_i hbrace
      -- two numbers, the second at least as large
      obtain ⟨⟨second, last⟩, hsecond, hrest⟩ := Option.bind_eq_some_iff.mp hrest
      have hlen' := (readCount_local flags _ _ _ hsecond).1
      obtain ⟨last', hsecond', hlast⟩ := (readCount_local flags).extends hlayout' hsecond
      have hbrace' := hlayout'.not_cons (by decide) hbrace
      simp only at hrest
      split at hrest
      · obtain rfl := hlast.cons_left
        simp only [List.length_cons] at hlen'
        split at hrest
        · rename_i hle
          obtain ⟨rfl, rfl, rfl⟩ := by simpa using hrest
          refine ⟨by omega, ?_⟩
          split
          · exact absurd rfl (hbrace' _)
          · simp [hsecond', hle]
        · simp at hrest
      · simp at hrest
  · simp at hrest

end RuleText.Regex
