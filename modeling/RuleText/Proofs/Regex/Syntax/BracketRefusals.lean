import RuleText.Proofs.Regex.Syntax.Bracket
import RuleText.Proofs.Regex.Syntax.Refusals

/-!
# Brackets that the closing anchor does not close

A class whose text ends within its brackets is refused, and between anchors it is refused too. Its last item
may be another one there: a character that was the last of the text stands before the parenthesis, a
hyphen makes an interval up to the parenthesis, and a backslash makes a literal of it. Behind such an item
comes at most the closing anchor, though, and there is no bracket in it.

Main statements:

- `readClassItem_refuses`: where an item ends that is read only before the anchor;
- `readBrackets_anchorEnd`: the anchor closes no bracket;
- `readBracket_append_eq_none`: a whole class.
-/

namespace RuleText.Regex

/-! ### Items -/

/-- What is read of a class only before the anchor is its parenthesis, or no member of a class. -/
theorem readClassAtom_refuses {flags : Flags} {text text' rest : List Char} {atom : Atom}
    (htext : Extends text text') (h : readClassAtom flags text = none)
    (h' : readClassAtom flags text' = some (atom, rest)) :
    rest = ['$'] ∨ ∃ claim, atom = .assertion claim := by
  cases text with
  | nil =>
    rcases htext.nil_left with rfl | rfl
    · have heq : some (Atom.char ')' false, ['$']) = some (atom, rest) := h'
      exact Or.inl (Prod.mk.inj (Option.some.inj heq)).2.symm
    · cases h'
  | cons c more =>
    obtain rfl := htext.cons_left
    rw [readClassAtom] at h h'
    split at h
    · rw [if_pos ‹_›] at h'
      rcases readEscape_refuses h h' with hrest | ⟨claim, -, hatom, -⟩
      · exact Or.inl hrest
      · exact Or.inr ⟨claim, hatom⟩
    · cases h

/-- An assertion is no member of a class. -/
theorem readClassItem_assertion {flags : Flags} {text rest : List Char} {claim : Assertion}
    (h : readClassAtom flags text = some (.assertion claim, rest)) : readClassItem flags text = none := by
  rw [readClassItem, h]
  simp only [Option.bind_eq_bind, Option.bind_some]
  split
  · rfl
  · split
    · rfl
    · rw [Option.bind_eq_none_iff]
      rintro ⟨last, behind⟩ -
      rfl

/-- An item ends in front of what is no hyphen. -/
theorem readClassItem_ends {flags : Flags} {text after more rest : List Char} {first : Atom} {c : Char}
    {cls : CharClass} (hfirst : readClassAtom flags text = some (first, after))
    (hlayout : skipLayout flags after = c :: more) (hc : c ≠ '-')
    (h : readClassItem flags text = some (cls, rest)) : rest = c :: more := by
  have halone : (c != '-') = true := bne_iff_ne.mpr hc
  rw [readClassItem, hfirst, Option.bind_eq_bind, Option.bind_some] at h
  simp only [hlayout, halone, Bool.true_or, if_true] at h
  cases first with
  | char a byte =>
    obtain ⟨member, -, heq⟩ := Option.bind_eq_some_iff.mp h
    exact (Prod.mk.inj (Option.some.inj heq)).2.symm
  | cls named => exact (Prod.mk.inj (Option.some.inj h)).2.symm
  | assertion claim => cases h

/-- The upper end of an interval, and the interval. -/
private def intervalFrom (flags : Flags) (first : Atom) (text : List Char) :
    Option (CharClass × List Char) := do
  let (last, rest) ← readClassAtom flags text
  match first, last with
  | .char a _, .char b _ => do
    let a ← flags.member? a
    let b ← flags.member? b
    if a ≤ b then some (flags.closeCase (.between a b), rest) else none
  | _, _ => none

/-- The parenthesis may be the upper end of an interval. -/
private theorem intervalFrom_refuses {flags : Flags} {first : Atom} {text text' rest : List Char}
    {cls : CharClass} (htext : Extends text text') (h : intervalFrom flags first text = none)
    (h' : intervalFrom flags first text' = some (cls, rest)) : rest = ['$'] := by
  obtain ⟨⟨last, behind'⟩, hlast', h'⟩ := Option.bind_eq_some_iff.mp h'
  simp only at h'
  split at h'
  · simp only [Option.bind_eq_bind, Option.bind_eq_some_iff] at h'
    obtain ⟨a, ha, b, hb, heq⟩ := h'
    split at heq
    · rename_i hle
      obtain ⟨-, rfl⟩ := Prod.mk.inj (Option.some.inj heq)
      cases hlast : readClassAtom flags text with
      | none =>
        rcases readClassAtom_refuses htext hlast hlast' with hrest | ⟨claim, hclaim⟩
        · exact hrest
        · cases hclaim
      | some answer =>
        obtain ⟨last₀, behind⟩ := answer
        obtain ⟨rfl, -⟩ := (readClassAtom_local flags).agree htext hlast hlast'
        simp [intervalFrom, hlast, ha, hb, hle] at h
    · cases heq
  · cases h'

/-- **An item that is read only before the anchor.** It ends in front of the parenthesis or with it. -/
theorem readClassItem_refuses {flags : Flags} {text rest : List Char} {cls : CharClass}
    (h : readClassItem flags text = none)
    (h' : readClassItem flags (text ++ anchorEnd) = some (cls, rest)) :
    rest = anchorEnd ∨ rest = ['$'] := by
  obtain ⟨⟨first, after'⟩, hfirst', -⟩ := Option.bind_eq_some_iff.mp h'
  cases hfirst : readClassAtom flags text with
  | none =>
    -- if the atom has come from the anchor, then what is left is the end of the anchor
    rcases readClassAtom_refuses (.kept text) hfirst hfirst' with rfl | ⟨claim, rfl⟩
    · exact Or.inr (readClassItem_ends hfirst' (skipLayout_dollar flags) (by decide) h')
    · rw [readClassItem_assertion hfirst'] at h'
      cases h'
  | some answer =>
    obtain ⟨first₀, after⟩ := answer
    -- if not, it is the same atom, and what follows it has been refused
    obtain ⟨rfl, hafter⟩ := (readClassAtom_local flags).agree (.kept text) hfirst hfirst'
    have hlayout := extends_skipLayout flags hafter
    cases hinner : skipLayout flags after with
    | nil =>
      rw [hinner] at hlayout
      -- nothing follows, and a parenthesis or a dollar sign begins no interval
      rcases hlayout.nil_left with hinner' | hinner'
      · exact Or.inl (readClassItem_ends hfirst' hinner' (by decide) h')
      · rw [readClassItem, hfirst', Option.bind_eq_bind, Option.bind_some] at h'
        simp only [hinner'] at h'
        cases h'
    | cons c more =>
      rw [hinner] at hlayout
      rw [readClassItem, hfirst, Option.bind_eq_bind, Option.bind_some] at h
      rw [readClassItem, hfirst', Option.bind_eq_bind, Option.bind_some] at h'
      simp only [hinner] at h
      simp only [hlayout.cons_left, standsAlone_extends] at h'
      split at h
      · -- what stands before the anchor decides
        exfalso
        rw [if_pos ‹_›] at h'
        cases first with
        | char a byte =>
          simp only at h h'
          rw [eq_none_of_bind_some h] at h'
          cases h'
        | cls named => cases h
        | assertion claim => cases h'
      · -- a hyphen: the other end of the interval has come from the anchor
        rw [if_neg ‹_›] at h'
        exact Or.inr (intervalFrom_refuses (extends_skipLayout flags (.kept more)) h h')

/-! ### Brackets -/

theorem readBrackets_dollar (flags : Flags) (fuel : Nat) (outer : List ClassLevel) (here : ClassLevel) :
    readBrackets flags fuel outer here ['$'] = none := by
  cases fuel with
  | zero => rfl
  | succ fuel =>
    have hitem : readClassItem flags ['$'] = none := by
      simp [readClassItem, readClassAtom]
    rw [readBrackets_item (skipLayout_dollar flags) (by decide) (by decide) (by simp), hitem]
    rfl

/-- The closing anchor closes no bracket. -/
theorem readBrackets_anchorEnd (flags : Flags) (fuel : Nat) (outer : List ClassLevel)
    (here : ClassLevel) : readBrackets flags fuel outer here anchorEnd = none := by
  cases fuel with
  | zero => rfl
  | succ fuel =>
    rw [readBrackets_item (skipLayout_anchorEnd flags) (by decide) (by decide) (by simp)]
    rw [Option.bind_eq_none_iff]
    rintro ⟨item, rest⟩ hitem
    rw [readClassItem_ends rfl (skipLayout_dollar flags) (by decide) hitem]
    exact readBrackets_dollar flags fuel outer (here.push item)

/-- From any place with fewer than `bound` characters left, what the inside of brackets is refused for
alone it is refused for before the anchor, each text with its own fuel. -/
private def BracketsRefuse (flags : Flags) (fuel fuel' bound : Nat) : Prop :=
  ∀ {outer : List ClassLevel} {here : ClassLevel} {after after' : List Char},
    Extends after after' → after.length < bound →
      readBrackets flags fuel outer here after = none → readBrackets flags fuel' outer here after' = none

section Round

/-! One round at a character that is there in both texts, if the rounds after it refuse alike. -/

variable {flags : Flags} {fuel fuel' : Nat} {outer : List ClassLevel} {here : ClassLevel}
  {text text' more : List Char} (hnext : BracketsRefuse flags fuel fuel' (more.length + 1))

include hnext

private theorem readBrackets_opening_eq_none (hfuel : more.length ≤ fuel)
    (hfuel' : (more ++ anchorEnd).length ≤ fuel') (hinner : skipLayout flags text = '[' :: more)
    (hinner' : skipLayout flags text' = '[' :: (more ++ anchorEnd))
    (h : readBrackets flags (fuel + 1) outer here text = none) :
    readBrackets flags (fuel' + 1) outer here text' = none := by
  rw [readBrackets, hinner] at h
  rw [readBrackets, hinner']
  simp only [readAsciiClass_append] at h ⊢
  cases hascii : readAsciiClass more with
  | some answer =>
    obtain ⟨negated, named, after⟩ := answer
    have hlt := readAsciiClass_length hascii
    rw [hascii] at h
    simp only [Option.map_some, Option.bind_eq_bind, Option.bind_eq_none_iff] at h ⊢
    intro closed hclosed
    exact hnext (.kept after) (Nat.lt_succ_of_lt hlt) (h closed hclosed)
  | none =>
    rw [hascii] at h
    obtain ⟨hstart, hlevel, hext⟩ :=
      readBracketStart_extends flags fuel fuel' (.kept more) hfuel hfuel'
    simp only [Option.map_none] at h ⊢
    rw [hlevel]
    exact hnext hext (Nat.lt_succ_of_le hstart) h

private theorem readBrackets_closing_eq_none (hinner : skipLayout flags text = ']' :: more)
    (hinner' : skipLayout flags text' = ']' :: (more ++ anchorEnd))
    (h : readBrackets flags (fuel + 1) outer here text = none) :
    readBrackets flags (fuel' + 1) outer here text' = none := by
  rw [readBrackets, hinner] at h
  rw [readBrackets, hinner']
  simp only [Option.bind_eq_bind, Option.bind_eq_none_iff] at h ⊢
  intro closed hclosed
  have hafter := h closed hclosed
  cases outer with
  | nil => cases hafter
  | cons parent outer => exact hnext (.kept more) (Nat.lt_succ_self _) hafter

private theorem readBrackets_operator_eq_none {c : Char} (hc : c ∈ ['&', '-', '~'])
    (hhead : more.head? = some c) (hinner : skipLayout flags text = c :: more)
    (hinner' : skipLayout flags text' = c :: (more ++ anchorEnd))
    (h : readBrackets flags (fuel + 1) outer here text = none) :
    readBrackets flags (fuel' + 1) outer here text' = none := by
  obtain ⟨tail, rfl⟩ := List.head?_eq_some_iff.mp hhead
  have hlt : tail.length < (c :: tail).length + 1 := Nat.lt_succ_of_lt (Nat.lt_succ_self _)
  rw [readBrackets, hinner] at h
  rw [readBrackets, hinner']
  simp only [List.mem_cons, List.not_mem_nil, or_false] at hc
  rcases hc with rfl | rfl | rfl
  · exact hnext (.kept tail) hlt h
  · exact hnext (.kept tail) hlt h
  · exact hnext (.kept tail) hlt h

/-- An item may be the last thing that is read, and the anchor does not close the bracket. -/
private theorem readBrackets_other_eq_none {c : Char} (hopen : c ≠ '[') (hclose : c ≠ ']')
    (hoperator : ∀ d ∈ ['&', '-', '~'], c = d → more.head? ≠ some d)
    (hinner : skipLayout flags text = c :: more)
    (hinner' : skipLayout flags text' = c :: (more ++ anchorEnd))
    (h : readBrackets flags (fuel + 1) outer here text = none) :
    readBrackets flags (fuel' + 1) outer here text' = none := by
  rw [readBrackets_item hinner hopen hclose hoperator] at h
  rw [readBrackets_item hinner' hopen hclose (not_operator_append hoperator)]
  rw [Option.bind_eq_none_iff]
  rintro ⟨item, after'⟩ hitem'
  cases hitem : readClassItem flags (c :: more) with
  | none =>
    rcases readClassItem_refuses hitem hitem' with rfl | rfl
    · exact readBrackets_anchorEnd flags fuel' outer _
    · exact readBrackets_dollar flags fuel' outer _
  | some answer =>
    obtain ⟨hlt, after₀, hsame, hafter⟩ := readClassItem_extends hitem
    rw [List.cons_append, hitem'] at hsame
    obtain ⟨rfl, rfl⟩ := Prod.mk.inj (Option.some.inj hsame)
    rw [hitem, Option.bind_some] at h
    exact hnext hafter hlt h

end Round

/-- The inside of brackets, with enough fuel for each of the two texts. -/
theorem readBrackets_eq_none_of_extends (flags : Flags) (fuel fuel' : Nat) {outer : List ClassLevel}
    {here : ClassLevel} {text text' : List Char} (htext : Extends text text')
    (hfuel : text.length < fuel) (hfuel' : text'.length < fuel')
    (h : readBrackets flags fuel outer here text = none) :
    readBrackets flags fuel' outer here text' = none := by
  -- the induction is on the fuel of the shorter text, with any brackets open
  induction fuel generalizing fuel' outer here text text' with
  | zero => exact absurd hfuel (Nat.not_lt_zero _)
  | succ fuel ih =>
    obtain ⟨fuel', rfl⟩ := Nat.exists_eq_add_of_le' (Nat.one_le_of_lt hfuel')
    have hlayout := extends_skipLayout flags htext
    have hlength := length_skipLayout_le flags text
    have hlength' := length_skipLayout_le flags text'
    cases hinner : skipLayout flags text with
    | nil =>
      rw [hinner] at hlayout
      rcases hlayout.nil_left with hinner' | hinner'
      · -- only the anchor is left, and its parenthesis opens and closes nothing here
        have hanchor := readBrackets_anchorEnd flags (fuel' + 1) outer here
        rw [readBrackets, skipLayout_anchorEnd] at hanchor
        rw [readBrackets, hinner']
        exact hanchor
      · rw [readBrackets, hinner']
    | cons c more =>
      rw [hinner] at hlayout hlength
      have hinner' := hlayout.cons_left
      rw [List.length_cons] at hlength
      rw [hinner', List.length_cons] at hlength'
      -- every round takes something, so the rounds after it have enough fuel
      have hnext : BracketsRefuse flags fuel fuel' (more.length + 1) := by
        intro outer here after after' hafter hlt h
        have hshorter := hafter.length_le
        have hlonger : (more ++ anchorEnd).length = more.length + 2 := List.length_append
        exact ih fuel' hafter (by omega) (by omega) h
      -- what the character does decides the round, and each kind has its own lemma
      by_cases hopen : c = '['
      · subst hopen
        exact readBrackets_opening_eq_none hnext (by omega) (by omega) hinner hinner' h
      · by_cases hclose : c = ']'
        · subst hclose
          exact readBrackets_closing_eq_none hnext hinner hinner' h
        · by_cases hoperator : ∃ d ∈ ['&', '-', '~'], c = d ∧ more.head? = some d
          · obtain ⟨d, hd, rfl, hhead⟩ := hoperator
            exact readBrackets_operator_eq_none hnext hd hhead hinner hinner' h
          · have hitem : ∀ d ∈ ['&', '-', '~'], c = d → more.head? ≠ some d :=
              fun d hd heq hhead => hoperator ⟨d, hd, heq, hhead⟩
            exact readBrackets_other_eq_none hnext hopen hclose hitem hinner hinner' h

/-- **A bracketed class.** -/
theorem readBracket_append_eq_none {flags : Flags} {bound bound' : Nat} {text : List Char}
    (hbound : text.length < bound) (hbound' : text.length + 2 < bound')
    (h : readBracket flags bound text = none) :
    readBracket flags bound' (text ++ anchorEnd) = none := by
  have hlonger : (text ++ anchorEnd).length = text.length + 2 := List.length_append
  obtain ⟨hstart, hlevel, hext⟩ := readBracketStart_extends flags bound bound' (.kept text)
    (by omega) (by omega)
  have hshorter := hext.length_le
  change readBrackets flags bound [] (readBracketStart flags bound text).1
    (readBracketStart flags bound text).2 = none at h
  have hrest := readBrackets_eq_none_of_extends flags bound bound' hext (by omega) (by omega) h
  rw [← hlevel] at hrest
  exact hrest

end RuleText.Regex
