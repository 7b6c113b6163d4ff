import RuleText.Text.Trim

/-!
# Splitting a text at a mark

A text is split at a mark exactly where the mark occurs first. That it occurs nowhere before is a matter of
what stands in front and the mark alone: an occurrence that began within the text in front would end no
later than the mark does.

Main definition:

- `FirstMark`: a mark behind a text is its first occurrence there.

Main statement:

- `splitAtMark_eq_some_iff`: the two parts of a split.
-/

namespace RuleText

/-- A mark behind a text is its first occurrence there: none ends earlier. -/
def FirstMark (mark before : List Char) : Prop :=
  ∀ earlier behind, before ++ mark = earlier ++ mark ++ behind → behind = []

variable {mark before : List Char} {c : Char}

theorem firstMark_nil (mark : List Char) : FirstMark mark [] := by
  intro earlier behind heq
  -- there is no room for the mark earlier
  have hlength := congrArg List.length heq
  simp only [List.nil_append, List.length_append] at hlength
  exact List.length_eq_zero_iff.mp (by omega)

theorem FirstMark.cons (h : FirstMark mark before) (hno : ¬ mark <+: c :: (before ++ mark)) :
    FirstMark mark (c :: before) := by
  intro earlier behind heq
  cases earlier with
  | nil =>
    refine absurd ?_ hno
    rw [← List.cons_append, heq, List.nil_append]
    exact List.prefix_append mark behind
  | cons d earlier => exact h earlier behind (List.cons.inj heq).2

theorem FirstMark.tail (h : FirstMark mark (c :: before)) : FirstMark mark before := by
  intro earlier behind heq
  refine h (c :: earlier) behind ?_
  rw [List.cons_append, heq]
  rfl

/-- A mark at the beginning is the first only with nothing in front. -/
theorem FirstMark.eq_nil (h : FirstMark mark before) (hhere : mark <+: before ++ mark) :
    before = [] := by
  obtain ⟨behind, hbehind⟩ := hhere
  have hnil := h [] behind hbehind.symm
  have hlength := congrArg List.length hbehind
  rw [hnil, List.append_nil, List.length_append] at hlength
  exact List.length_eq_zero_iff.mp (by omega)

/-- **A text is split at the first occurrence of a mark.** -/
theorem splitAtMark_eq_some_iff (hmark : mark ≠ []) (text before after : List Char) :
    splitAtMark mark text = some (before, after) ↔
      text = before ++ mark ++ after ∧ FirstMark mark before := by
  -- the induction is on the text; at each character the mark is there, or the search goes on
  induction text generalizing before with
  | nil =>
    refine ⟨nofun, ?_⟩
    rintro ⟨heq, -⟩
    simp only [List.nil_eq, List.append_eq_nil_iff] at heq
    exact absurd heq.1.2 hmark
  | cons c rest ih =>
    rw [splitAtMark]
    by_cases hhere : mark <+: c :: rest
    · rw [if_pos (List.isPrefixOf_iff_prefix.mpr hhere), Option.some.injEq, Prod.mk.injEq]
      refine ⟨?_, ?_⟩
      · rintro ⟨rfl, rfl⟩
        refine ⟨?_, firstMark_nil mark⟩
        rw [List.nil_append]
        exact List.prefix_iff_eq_append.mp hhere |>.symm
      · rintro ⟨heq, hfirst⟩
        -- the mark is here, so the first one cannot come later
        have hwithin : mark <+: before ++ mark := by
          rw [heq] at hhere
          refine List.prefix_of_prefix_length_le hhere (List.prefix_append _ after) ?_
          rw [List.length_append]
          exact Nat.le_add_left _ _
        obtain rfl := hfirst.eq_nil hwithin
        rw [heq, List.nil_append, List.drop_left]
        exact ⟨rfl, rfl⟩
    · rw [if_neg (mt List.isPrefixOf_iff_prefix.mp hhere), Option.map_eq_some_iff]
      refine ⟨?_, ?_⟩
      · rintro ⟨⟨inner, behind⟩, hinner, heq⟩
        obtain ⟨rfl, rfl⟩ := Prod.mk.inj heq
        obtain ⟨rfl, hfirst⟩ := (ih inner).mp hinner
        -- a mark that stood here would have been found
        refine ⟨rfl, hfirst.cons fun hno => hhere ?_⟩
        exact hno.trans (List.prefix_append _ behind)
      · rintro ⟨heq, hfirst⟩
        -- a character in front of the mark is the one just passed
        cases before with
        | nil =>
          rw [List.nil_append] at heq
          exact absurd ⟨after, heq.symm⟩ hhere
        | cons d inner =>
          obtain ⟨rfl, hrest⟩ := List.cons.inj heq
          exact ⟨(inner, after), (ih inner).mpr ⟨hrest, hfirst.tail⟩, rfl⟩

end RuleText
