import RuleText.Regex.Basic

/-!
# Spans of expressions

What the later modules need of the relation `Regex.Spans`: it only ever leads forwards, it does not leave
the text, and it depends on the readings of the leaves at positions of the text alone.

Main statements:

- `Steps.trans`, `steps_add_iff`: chains of steps may be cut and joined anywhere;
- `Regex.spans_mapLeaves`: changing the leaves of an expression changes the reading of its leaves;
- `Regex.Spans.le_bound`: a match that begins within a text ends within it;
- `Regex.spans_congr`: readings that agree on the positions of a text give the same matches in it.
-/

namespace RuleText

/-! ### Chains of steps -/

theorem steps_one_iff (R : Nat → Nat → Prop) (i j : Nat) : Steps R 1 i j ↔ R i j := by
  refine ⟨?_, ?_⟩
  · rintro ⟨k, hik, hkj⟩
    obtain rfl : k = j := hkj
    exact hik
  · intro h
    exact ⟨j, h, rfl⟩

/-- A chain of `m + n` steps is a chain of `m` steps and one of `n` steps behind it. -/
theorem steps_add_iff (R : Nat → Nat → Prop) (m n i j : Nat) :
    Steps R (m + n) i j ↔ ∃ k, Steps R m i k ∧ Steps R n k j := by
  induction m generalizing i with
  | zero =>
    rw [Nat.zero_add]
    refine ⟨?_, ?_⟩
    · intro h
      exact ⟨i, rfl, h⟩
    · rintro ⟨k, hik, hkj⟩
      obtain rfl : i = k := hik
      exact hkj
  | succ m ih =>
    rw [Nat.succ_add]
    refine ⟨?_, ?_⟩
    · rintro ⟨k, hik, hkj⟩
      obtain ⟨l, hkl, hlj⟩ := (ih k).mp hkj
      exact ⟨l, ⟨k, hik, hkl⟩, hlj⟩
    · rintro ⟨l, ⟨k, hik, hkl⟩, hlj⟩
      exact ⟨k, hik, (ih k).mpr ⟨l, hkl, hlj⟩⟩

/-- A chain with one step more at its end. -/
theorem steps_succ_iff (R : Nat → Nat → Prop) (n i j : Nat) :
    Steps R (n + 1) i j ↔ ∃ k, Steps R n i k ∧ R k j := by
  rw [steps_add_iff]
  simp only [steps_one_iff]

theorem Steps.trans {R : Nat → Nat → Prop} {m n i j k : Nat} (hij : Steps R m i j)
    (hjk : Steps R n j k) : Steps R (m + n) i k :=
  (steps_add_iff R m n i k).mpr ⟨j, hij, hjk⟩

/-- A chain does not leave a set of positions that no step leaves. -/
theorem Steps.stays {R : Nat → Nat → Prop} {P : Nat → Prop} (hR : ∀ i j, P i → R i j → P j)
    {n i j : Nat} (h : Steps R n i j) (hi : P i) : P j := by
  induction n generalizing i with
  | zero =>
    obtain rfl : i = j := h
    exact hi
  | succ n ih =>
    obtain ⟨k, hik, hkj⟩ := h
    exact ih hkj (hR i k hi hik)

/-- Relations that agree wherever a chain can get to have the same chains. -/
theorem steps_congr {R S : Nat → Nat → Prop} {P : Nat → Prop} (hR : ∀ i j, P i → R i j → P j)
    (hRS : ∀ i j, P i → (R i j ↔ S i j)) (n : Nat) {i j : Nat} (hi : P i) :
    Steps R n i j ↔ Steps S n i j := by
  induction n generalizing i with
  | zero => rfl
  | succ n ih =>
    refine ⟨?_, ?_⟩
    · rintro ⟨k, hik, hkj⟩
      exact ⟨k, (hRS i k hi).mp hik, (ih (hR i k hi hik)).mp hkj⟩
    · rintro ⟨k, hik, hkj⟩
      have hRik := (hRS i k hi).mpr hik
      exact ⟨k, hRik, (ih (hR i k hi hRik)).mpr hkj⟩

namespace Regex

variable {σ τ α β : Type}

/-! ### Leaves -/

/-- The meaning of an expression with other leaves is that of the expression itself, its leaves read as
those put in their place. -/
theorem spans_mapLeaves (takes : τ → Nat → Prop) (holds : β → Nat → Prop) (f : σ → τ) (g : α → β)
    (r : Regex σ α) :
    (r.mapLeaves f g).Spans takes holds = r.Spans (takes ∘ f) (holds ∘ g) := by
  induction r with
  | empty => rfl
  | one s => rfl
  | assert a => rfl
  | seq r s ihr ihs =>
    funext i j
    simp only [mapLeaves, Spans, ihr, ihs]
  | alt r s ihr ihs =>
    funext i j
    simp only [mapLeaves, Spans, ihr, ihs]
  | times r least most ih =>
    funext i j
    simp only [mapLeaves, Spans, ih]

/-! ### Matches stay within the text -/

/-- **Matches end within the text.** If no step is taken at the end of a text of `n` characters, then a
match that begins within the text ends within it. -/
theorem Spans.le_bound {takes : σ → Nat → Prop} {holds : α → Nat → Prop} {n : Nat}
    (htakes : ∀ s i, takes s i → i < n) {r : Regex σ α} {i j : Nat}
    (h : r.Spans takes holds i j) (hi : i ≤ n) : j ≤ n := by
  induction r generalizing i j with
  | empty =>
    obtain rfl : i = j := h
    exact hi
  | one s =>
    obtain ⟨hs, rfl⟩ := h
    exact htakes s i hs
  | assert a =>
    obtain ⟨-, rfl⟩ := h
    exact hi
  | seq r s ihr ihs =>
    obtain ⟨k, hik, hkj⟩ := h
    exact ihs hkj (ihr hik hi)
  | alt r s ihr ihs =>
    rcases h with h | h
    · exact ihr h hi
    · exact ihs h hi
  | times r least most ih =>
    obtain ⟨m, -, -, hm⟩ := h
    exact hm.stays (P := (· ≤ n)) (fun a b ha hab => ih hab ha) hi

/-- **Only the positions of the text matter.** Two readings of the leaves that agree at the positions of a
text give the same matches in it. -/
theorem spans_congr {takes takes' : σ → Nat → Prop} {holds holds' : α → Nat → Prop} {n : Nat}
    (hbound : ∀ s i, takes s i → i < n)
    (htakes : ∀ s i, i ≤ n → (takes s i ↔ takes' s i))
    (hholds : ∀ a i, i ≤ n → (holds a i ↔ holds' a i))
    (r : Regex σ α) {i j : Nat} (hi : i ≤ n) :
    r.Spans takes holds i j ↔ r.Spans takes' holds' i j := by
  induction r generalizing i j with
  | empty => rfl
  | one s => simp only [Spans, htakes s i hi]
  | assert a => simp only [Spans, hholds a i hi]
  | seq r s ihr ihs =>
    refine ⟨?_, ?_⟩
    · rintro ⟨k, hik, hkj⟩
      exact ⟨k, (ihr hi).mp hik, (ihs (hik.le_bound hbound hi)).mp hkj⟩
    · rintro ⟨k, hik, hkj⟩
      have hik' := (ihr hi).mpr hik
      exact ⟨k, hik', (ihs (hik'.le_bound hbound hi)).mpr hkj⟩
  | alt r s ihr ihs => simp only [Spans, ihr hi, ihs hi]
  | times r least most ih =>
    have hsteps (m : Nat) : Steps (r.Spans takes holds) m i j ↔ Steps (r.Spans takes' holds') m i j :=
      steps_congr (P := (· ≤ n)) (fun a b ha hab => hab.le_bound hbound ha)
        (fun a b ha => ih ha) m hi
    simp only [Spans, hsteps]

end Regex

end RuleText
