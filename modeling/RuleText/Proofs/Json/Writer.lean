import RuleText.Proofs.Json.Reader

/-!
# What is written is a form of what was meant

The writer makes one of the forms of an object: no white space, and no escapes but those that there have to
be. Floating point numbers are left out, which have no form.

Main statements:

- `Json.textForm_escape`: texts between quotes;
- `Json.exists_scalarForm`: values;
- `Json.exists_objectForm`: properties.
-/

namespace RuleText.Json

/-! ### Scalars -/

/-- The digits of a control character. -/
theorem fourDigits_hexText {n : Nat} (h : n < 0x20) :
    FourDigits n (List.replicate (4 - (hexText n).length) '0' ++ hexText n) := by
  revert n
  decide

/-- **A character** is written in one of its forms. -/
theorem charForm_escape (c : Char) : CharForm c (escape c) := by
  unfold escape
  split
  · exact .letter (by decide)
  · exact .letter (by decide)
  · exact .letter (by decide)
  · exact .letter (by decide)
  · exact .letter (by decide)
  · exact .letter (by decide)
  · exact .letter (by decide)
  · rename_i hquote hbackslash _ _ _ _ _
    split
    · rename_i hcontrol
      exact .code (fourDigits_hexText hcontrol)
    · rename_i hcontrol
      exact .plain (Nat.le_of_not_lt hcontrol) hquote hbackslash

theorem textForm_escape (text : List Char) : TextForm text (text.flatMap escape) := by
  induction text with
  | nil => exact .nil
  | cons c text ih => exact .cons (charForm_escape c) ih

/-- **A value** that is no floating point number is written as a scalar from which it is read. -/
theorem exists_scalarForm {v : Value} (h : ∀ x, v ≠ .float x) :
    ∃ scalar : Scalar, scalar.value = v ∧ scalar.InRange ∧ ScalarForm scalar v.toJson := by
  cases v with
  | boolean b => exact ⟨.boolean b, rfl, trivial, .boolean b⟩
  | integer n =>
    have hlow := n.le_toInt
    have hhigh := n.toInt_lt
    have habs : n.toInt.natAbs ≤ 2 ^ 64 := by
      omega
    refine ⟨.integer n.toInt, ?_, lt_integerLimit habs, .integer n.toInt⟩
    simp only [Scalar.value, if_pos (And.intro hlow hhigh), Int64.ofInt_toInt]
  | float x => exact absurd rfl (h x)
  | string s => exact ⟨.string s, rfl, trivial, .string (textForm_escape s.toList)⟩

/-! ### Objects -/

/-- A member of an object as it is written. -/
def memberText (entry : String × Value) : List Char :=
  stringText entry.1.toList ++ ':' :: entry.2.toJson

theorem blank_nil : Blank [] := by
  intro c hc
  cases hc

theorem exists_memberForm {entry : String × Value} (h : ∀ x, entry.2 ≠ .float x) :
    ∃ scalar : Scalar, scalar.value = entry.2 ∧ scalar.InRange ∧
      MemberForm (entry.1, scalar) (memberText entry) := by
  obtain ⟨scalar, hvalue, hrange, hscalar⟩ := exists_scalarForm h
  refine ⟨scalar, hvalue, hrange, ?_⟩
  have hform := MemberForm.mk blank_nil (textForm_escape entry.1.toList) blank_nil blank_nil hscalar
  simpa [memberText, stringText] using hform

/-- The members behind the first one, each with a comma in front of it. -/
theorem exists_membersForm_more {entries : List (String × Value)}
    (h : ∀ entry ∈ entries, ∀ x, entry.2 ≠ .float x) :
    ∃ scalars, values scalars = entries ∧ (∀ entry ∈ scalars, entry.2.InRange) ∧
      MembersForm false scalars (entries.flatMap (fun entry => ',' :: memberText entry) ++ ['\x7d']) := by
  induction entries with
  | nil => exact ⟨[], rfl, by simp, .close blank_nil⟩
  | cons entry others ih =>
    obtain ⟨hentry, hothers⟩ := List.forall_mem_cons.mp h
    obtain ⟨scalar, hvalue, hrange, hmember⟩ := exists_memberForm hentry
    obtain ⟨scalars, hvalues, hranges, hmembers⟩ := ih hothers
    refine ⟨(entry.1, scalar) :: scalars, ?_, List.forall_mem_cons.mpr ⟨hrange, hranges⟩, ?_⟩
    · show (entry.1, scalar.value) :: values scalars = entry :: others
      rw [hvalue, hvalues]
    · have hform := MembersForm.more blank_nil hmember hmembers
      simpa using hform

/-- A list with a comma between its parts. -/
theorem intercalate_comma (form : List Char) (forms : List (List Char)) :
    [','].intercalate (form :: forms) = form ++ forms.flatMap (fun form => ',' :: form) := by
  induction forms generalizing form with
  | nil => simp [List.intercalate]
  | cons next forms ih =>
    rw [List.flatMap_cons, List.cons_append, ← ih next]
    simp [List.intercalate]

/-- **Properties** without floating point numbers are written as an object of scalars from which they are
read. -/
theorem exists_objectForm {p : Properties} (h : ∀ entry ∈ p.entries, ∀ x, entry.2 ≠ .float x) :
    ∃ scalars, values scalars = p.entries ∧ (∀ entry ∈ scalars, entry.2.InRange) ∧
      ObjectForm scalars p.toJson := by
  show ∃ scalars, values scalars = p.entries ∧ (∀ entry ∈ scalars, entry.2.InRange) ∧
    ObjectForm scalars ('\x7b' :: [','].intercalate (p.entries.map memberText) ++ ['\x7d'])
  cases hentries : p.entries with
  | nil => exact ⟨[], rfl, by simp, [], ['\x7d'], [], blank_nil, blank_nil, .close blank_nil, rfl⟩
  | cons entry others =>
    rw [hentries] at h
    obtain ⟨hentry, hothers⟩ := List.forall_mem_cons.mp h
    obtain ⟨scalar, hvalue, hrange, hmember⟩ := exists_memberForm hentry
    obtain ⟨scalars, hvalues, hranges, hmembers⟩ := exists_membersForm_more hothers
    refine ⟨(entry.1, scalar) :: scalars, ?_, List.forall_mem_cons.mpr ⟨hrange, hranges⟩, [], _, [], blank_nil, blank_nil, .first hmember hmembers, ?_⟩
    · show (entry.1, scalar.value) :: values scalars = entry :: others
      rw [hvalue, hvalues]
    · rw [List.map_cons, intercalate_comma, List.flatMap_map]
      simp

end RuleText.Json
