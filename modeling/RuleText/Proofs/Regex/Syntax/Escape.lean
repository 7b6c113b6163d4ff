import RuleText.Proofs.Regex.Syntax.Layout
import RuleText.Regex.Syntax.Escape

/-!
# Escapes in front of the closing anchor

An escape ends where its letter, its digits or its braces do. Behind a word boundary the reader looks for
an opening brace, which a closing parenthesis is not.

Main statement:

- `readEscape_local`: an escape is read off a pattern as it is off the pattern between anchors.
-/

namespace RuleText.Regex

/-! ### Classes named by a property -/

/-- The last step of reading a property: its class, where there is one. -/
theorem property_eq_some_iff (flags : Flags) (negated : Bool) (named cls : CharClass)
    (after rest : List Char) :
    (if flags.unicode = true then
        (flags.negate? negated (flags.closeCase named)).bind fun closed => some (closed, after)
      else none) = some (cls, rest) ↔
      flags.unicode = true ∧ flags.negate? negated (flags.closeCase named) = some cls ∧
        after = rest := by
  by_cases hunicode : flags.unicode = true
  · rw [if_pos hunicode, Option.bind_eq_some_iff]
    refine ⟨?_, ?_⟩
    · rintro ⟨closed, hclosed, heq⟩
      obtain ⟨rfl, rfl⟩ := Prod.mk.inj (Option.some.inj heq)
      exact ⟨hunicode, hclosed, rfl⟩
    · rintro ⟨-, hclosed, rfl⟩
      exact ⟨cls, hclosed, rfl⟩
  · simp [hunicode]

theorem readProperty_local (flags : Flags) (negated : Bool) :
    Local (readProperty flags negated) := by
  intro text cls rest h
  rw [readProperty] at h ⊢
  -- behind the letter there may be layout, which ends in both texts at the same character
  have hlayout := extends_skipLayout flags (.kept text)
  have hlength := length_skipLayout_le flags text
  generalize skipLayout flags text = inner at *
  generalize skipLayout flags (text ++ anchorEnd) = inner' at *
  split at h
  · simp at h
  · -- a name between braces
    obtain rfl := hlayout.cons_left
    simp only [Option.bind_eq_bind, Option.bind_eq_some_iff, Option.some.injEq,
      exists_eq_left'] at h ⊢
    obtain ⟨⟨name, after⟩, hbraced, named, hnamed, h⟩ := h
    obtain ⟨hunicode, hclosed, rfl⟩ := (property_eq_some_iff flags _ _ _ _ _).mp h
    have hlt := takeBraced_length hbraced
    have happend := (takeBraced_append flags.extended false _).trans (congrArg _ hbraced)
    simp only [List.length_cons] at hlength
    refine ⟨by simp only; omega, _, ⟨_, happend, named, hnamed, ?_⟩, .kept _⟩
    exact (property_eq_some_iff flags _ _ _ _ _).mpr ⟨hunicode, hclosed, rfl⟩
  · -- a name of one letter
    rename_i c tail hbrace
    obtain rfl := hlayout.cons_left
    split at h
    · simp at h
    · rename_i hbackslash
      simp only [Option.bind_eq_bind, Option.bind_eq_some_iff, Option.some.injEq,
        exists_eq_left'] at h
      obtain ⟨named, hnamed, h⟩ := h
      obtain ⟨hunicode, hclosed, rfl⟩ := (property_eq_some_iff flags _ _ _ _ _).mp h
      have hafter := length_skipLayout_le flags tail
      simp only [List.length_cons] at hlength
      refine ⟨by omega, _, ?_, extends_skipLayout flags (.kept tail)⟩
      split
      · rename_i heq
        simp at heq
      · rename_i heq
        exact absurd (List.cons.inj heq).1 hbrace
      · rename_i heq
        obtain ⟨rfl, rfl⟩ := List.cons.inj heq
        rw [if_neg hbackslash]
        simp only [Option.bind_eq_bind, hnamed, Option.bind_some]
        exact (property_eq_some_iff flags _ _ _ _ _).mpr ⟨hunicode, hclosed, rfl⟩

/-! ### Codes of characters -/

theorem takeHexDigits_local (flags : Flags) (count : Nat) : Local (takeHexDigits flags count) := by
  induction count with
  | zero =>
    intro text digits rest h
    obtain ⟨rfl, rfl⟩ := Prod.mk.inj (Option.some.inj h)
    exact ⟨Nat.le_refl _, _, rfl, .kept text⟩
  | succ count ih =>
    intro text digits rest h
    rw [takeHexDigits] at h ⊢
    have hlayout := extends_skipLayout flags (.kept text)
    have hlength := length_skipLayout_le flags text
    generalize skipLayout flags text = inner at *
    generalize skipLayout flags (text ++ anchorEnd) = inner' at *
    cases inner with
    | nil => simp at h
    | cons c tail =>
      obtain rfl := hlayout.cons_left
      simp only at h ⊢
      split at h
      · rename_i hdigit
        -- layout may stand before each digit, so the digits are taken one at a time
        obtain ⟨⟨more, after⟩, hmore, heq⟩ := Option.map_eq_some_iff.mp h
        obtain ⟨rfl, rfl⟩ := Prod.mk.inj heq
        obtain ⟨hlen, after', hmore', hext⟩ := ih tail more after hmore
        simp only [List.length_cons] at hlength
        refine ⟨by simp only; omega, after', ?_, hext⟩
        rw [if_pos hdigit, hmore']
        rfl
      · simp at h

theorem readCode_local (flags : Flags) (count : Nat) : Local (readCode flags count) := by
  intro text code rest h
  rw [readCode] at h ⊢
  have hlayout := extends_skipLayout flags (.kept text)
  have hlength := length_skipLayout_le flags text
  generalize skipLayout flags text = inner at *
  generalize skipLayout flags (text ++ anchorEnd) = inner' at *
  split at h
  · -- digits between braces
    obtain rfl := hlayout.cons_left
    simp only [Option.bind_eq_bind, Option.bind_eq_some_iff] at h ⊢
    obtain ⟨⟨digits, after⟩, hbraced, h⟩ := h
    have hlt := takeBraced_length hbraced
    have happend := (takeBraced_append flags.extended false _).trans (congrArg _ hbraced)
    simp only at h
    split at h
    · simp at h
    · rename_i hempty
      simp only [Option.bind_eq_some_iff] at h
      obtain ⟨value, hvalue, c, hc, heq⟩ := h
      obtain ⟨rfl, rfl⟩ := Prod.mk.inj (Option.some.inj heq)
      have hafter := length_skipLayout_le flags after
      simp only [List.length_cons] at hlength
      refine ⟨by omega, _, ⟨_, happend, ?_⟩, extends_skipLayout flags (.kept after)⟩
      simp [hempty, hvalue, hc]
  · -- a certain number of digits
    rename_i hbrace
    simp only [Option.bind_eq_bind, Option.bind_eq_some_iff] at h
    obtain ⟨⟨digits, after⟩, hdigits, value, hvalue, c, hc, heq⟩ := h
    obtain ⟨rfl, rfl⟩ := Prod.mk.inj (Option.some.inj heq)
    -- the digits are taken from the text alone, as there are enough of them in it
    have hlen := (takeHexDigits_local flags count _ _ _ hdigits).1
    obtain ⟨after', hdigits', hext⟩ := (takeHexDigits_local flags count).extends hlayout hdigits
    have hafter := length_skipLayout_le flags after
    refine ⟨by simp only; omega, _, ?_, extends_skipLayout flags hext⟩
    split
    · exact absurd rfl (hlayout.not_cons (by decide) hbrace _)
    · simp [hdigits', hvalue, hc]

/-! ### Assertions -/

theorem readWordAssertion_local (flags : Flags) : Local (readWordAssertion flags) := by
  intro text claim rest h
  rw [readWordAssertion.eq_def] at h ⊢
  split at h
  · rename_i tail
    have hlayout := extends_skipLayout flags (.kept tail)
    have hlength := length_skipLayout_le flags tail
    simp only [List.cons_append] at h ⊢
    generalize skipLayout flags tail = inner at *
    generalize skipLayout flags (tail ++ anchorEnd) = inner' at *
    cases inner with
    | nil => simp at h
    | cons c more =>
      obtain rfl := hlayout.cons_left
      simp only at h ⊢
      split at h
      · -- a name, which ends with the closing brace
        rename_i hname
        obtain ⟨hlen, after', heq, hext⟩ := takeLayoutFree_extends
          (p := fun c => c.isAlpha || c == '-') (by decide) flags.extended false (c :: more)
        rw [if_pos hname]
        rw [List.cons_append] at heq
        rw [heq]
        generalize takeLayoutFree (fun c => c.isAlpha || c == '-') flags.extended false
          (c :: more) = run at *
        obtain ⟨name, after⟩ := run
        simp only at h hlen hext ⊢
        split at h
        · rename_i behind hrun
          obtain ⟨rfl, rfl⟩ := Prod.mk.inj hrun
          obtain rfl := hext.cons_left
          simp only [List.length_cons] at hlen hlength
          have hwords : rest = behind := by
            split at h <;> simp_all
          subst hwords
          refine ⟨by simp only [List.length_cons]; omega, rest ++ anchorEnd, ?_, .kept rest⟩
          split at h <;> simp_all
        · simp at h
      · rename_i hname
        obtain ⟨rfl, rfl⟩ := Prod.mk.inj (Option.some.inj h)
        rw [if_neg hname]
        exact ⟨Nat.le_refl _, _, rfl, .kept ('{' :: tail)⟩
  · rename_i hbrace
    obtain ⟨rfl, rfl⟩ := Prod.mk.inj (Option.some.inj h)
    refine ⟨Nat.le_refl _, _, ?_, .kept text⟩
    split
    · rename_i heq
      -- the anchor begins with no opening brace
      exact absurd heq ((Extends.kept text).not_cons (by decide) hbrace _)
    · rfl

/-! ### Escapes -/

/-- **Escapes.** -/
theorem readEscape_local (flags : Flags) : Local (readEscape flags) := by
  intro text atom rest h
  cases text with
  | nil => simp [readEscape] at h
  | cons c tail =>
    rw [List.cons_append]
    simp only [readEscape] at h ⊢
    split at h
    case h_1 | h_2 | h_3 => exact (readCode_local flags _).behind _ h
    case h_4 | h_5 => exact ((readProperty_local flags _).map Atom.cls).behind _ h
    case h_6 | h_7 | h_8 | h_9 | h_10 | h_11 =>
      -- a letter names its class whatever stands behind it
      exact (Local.ofOption (flags.letterClass? _) Atom.cls).behind _ h
    case h_20 => exact ((readWordAssertion_local flags).map Atom.assertion).behind _ h
    case h_24 =>
      -- any other character, which stands for itself or is refused
      split at h
      · rename_i hliteral
        rw [if_pos hliteral]
        exact (Local.pure _).behind _ h
      · simp at h
    all_goals exact (Local.pure _).behind _ h

end RuleText.Regex
