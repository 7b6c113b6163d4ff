import Mathlib.Data.Finset.Card
import Mathlib.Data.Finset.Filter
import Mathlib.Data.Set.Basic
import RuleText.Regex.Places

/-!
# Numbers as sets of positions

A set of positions is a number read in binary. Here are the operations on such numbers as operations on
sets, and what the sets made from a text hold.

Main statements:

- `mem_of_ofText`: the positions before a character that satisfies a predicate;
- `mem_holding_ofText`: the positions of a text at which an assertion holds.
-/

namespace RuleText

/-- The positions in a set given as a number. -/
def positions (s : Nat) : Set Nat :=
  {i | s.testBit i = true}

theorem mem_positions {s i : Nat} : i ∈ positions s ↔ s.testBit i = true := Iff.rfl

theorem positions_injective {s t : Nat} (h : positions s = positions t) : s = t := by
  apply Nat.eq_of_testBit_eq
  intro i
  have hi : i ∈ positions s ↔ i ∈ positions t := by rw [h]
  exact Bool.eq_iff_iff.mpr hi

@[simp] theorem positions_zero : positions 0 = ∅ := by
  ext i
  simp [mem_positions]

theorem eq_zero_iff_positions_eq_empty (s : Nat) : s = 0 ↔ positions s = ∅ := by
  refine ⟨?_, ?_⟩
  · rintro rfl
    exact positions_zero
  · intro h
    exact positions_injective (h.trans positions_zero.symm)

@[simp] theorem positions_or (s t : Nat) : positions (s ||| t) = positions s ∪ positions t := by
  ext i
  simp [mem_positions]

@[simp] theorem positions_and (s t : Nat) : positions (s &&& t) = positions s ∩ positions t := by
  ext i
  simp [mem_positions]

@[simp] theorem positions_minus (s t : Nat) :
    positions (minus s t) = positions s \ positions t := by
  ext i
  rw [Set.mem_sdiff, mem_positions, mem_positions, mem_positions, minus, Nat.testBit_xor,
    Nat.testBit_and]
  cases s.testBit i <;> cases t.testBit i <;> decide

/-- Taking a smaller set away by an exclusive or. -/
theorem positions_xor_of_subset {s t : Nat} (h : positions s ⊆ positions t) :
    positions (t ^^^ s) = positions t \ positions s := by
  ext i
  have hi : s.testBit i = true → t.testBit i = true := fun hs => h hs
  rw [Set.mem_sdiff, mem_positions, mem_positions, mem_positions, Nat.testBit_xor]
  revert hi
  cases s.testBit i <;> cases t.testBit i <;> simp

theorem mem_positions_shiftLeft_one {s i : Nat} :
    i ∈ positions (s <<< 1) ↔ ∃ k ∈ positions s, i = k + 1 := by
  rw [mem_positions, Nat.testBit_shiftLeft]
  refine ⟨?_, ?_⟩
  · intro h
    obtain ⟨hi, hs⟩ : 1 ≤ i ∧ s.testBit (i - 1) = true := by simpa using h
    exact ⟨i - 1, hs, by omega⟩
  · rintro ⟨k, hk, rfl⟩
    simpa using mem_positions.mp hk

theorem mem_positions_one_shiftLeft {n i : Nat} : i ∈ positions (1 <<< n) ↔ i = n := by
  rw [mem_positions, Nat.one_shiftLeft, Nat.testBit_two_pow, decide_eq_true_eq]
  exact eq_comm

theorem mem_positions_one {i : Nat} : i ∈ positions 1 ↔ i = 0 :=
  mem_positions_one_shiftLeft (n := 0)

theorem mem_positions_all {places : Places} {i : Nat} :
    i ∈ positions places.all ↔ i ≤ places.length := by
  rw [mem_positions, Places.all, Nat.one_shiftLeft, Nat.testBit_two_pow_sub_one]
  simp only [decide_eq_true_eq]
  omega

/-! ### Counting positions -/

/-- The number of positions below `n` in a set. -/
def countBelow (n s : Nat) : Nat :=
  ((Finset.range n).filter fun i => s.testBit i).card

theorem countBelow_le (n s : Nat) : countBelow n s ≤ n := by
  have h := Finset.card_filter_le (Finset.range n) fun i => s.testBit i = true
  rwa [Finset.card_range] at h

theorem countBelow_lt {n s t i : Nat} (hst : positions s ⊆ positions t) (hi : i < n)
    (his : i ∉ positions s) (hit : i ∈ positions t) : countBelow n s < countBelow n t := by
  apply Finset.card_lt_card
  rw [Finset.ssubset_iff_of_subset]
  · refine ⟨i, ?_, ?_⟩
    · rw [Finset.mem_filter]
      exact ⟨Finset.mem_range.mpr hi, hit⟩
    · rw [Finset.mem_filter]
      exact fun h => his h.2
  · intro k hk
    rw [Finset.mem_filter] at hk ⊢
    exact ⟨hk.1, hst hk.2⟩

/-- A set with as many positions below `n` as there are holds all of them. -/
theorem mem_of_le_countBelow {n s i : Nat} (hn : n ≤ countBelow n s) (hi : i < n) :
    i ∈ positions s := by
  have hcard : (Finset.range n).card ≤ countBelow n s := by rwa [Finset.card_range]
  have hall := Finset.eq_of_subset_of_card_le (Finset.filter_subset _ (Finset.range n)) hcard
  have hmem : i ∈ Finset.range n := Finset.mem_range.mpr hi
  rw [← hall, Finset.mem_filter] at hmem
  exact hmem.2

/-! ### The characters of a text -/

namespace Places

/-- The positions that the table of a text holds for a character. -/
theorem testBit_collect (text : List Char) (start : Nat) (found : Found) (c : Char)
    (i : Nat) :
    ((collect text start found).getD c 0).testBit i = true ↔
      (found.getD c 0).testBit i = true ∨ start ≤ i ∧ text[i - start]? = some c := by
  -- the induction is on the text, with anything found before it
  induction text generalizing start found with
  | nil => simp [collect]
  | cons d rest ih =>
    -- the first character is at the start, and the others are one position further on
    have hcons : start ≤ i ∧ (d :: rest)[i - start]? = some c ↔
        start = i ∧ d = c ∨ start + 1 ≤ i ∧ rest[i - (start + 1)]? = some c := by
      rcases Nat.lt_trichotomy i start with h | rfl | h
      · constructor
        · intro hi
          omega
        · rintro (hi | hi) <;> omega
      · simp
      · have hsub : i - start = i - (start + 1) + 1 := by omega
        rw [hsub, List.getElem?_cons_succ]
        refine ⟨?_, ?_⟩
        · rintro ⟨-, hc⟩
          exact Or.inr ⟨h, hc⟩
        · rintro (⟨rfl, -⟩ | ⟨-, hc⟩)
          · omega
          · exact ⟨Nat.le_of_lt h, hc⟩
    rw [collect, ih, hcons, Std.HashMap.getD_insert]
    -- a bit is set for this character only
    by_cases hdc : d = c
    · subst hdc
      simp only [beq_self_eq_true, if_true, Nat.testBit_or, Bool.or_eq_true, and_true]
      rw [Nat.one_shiftLeft, Nat.testBit_two_pow, decide_eq_true_eq]
      tauto
    · have hne : (d == c) = false := by simpa using hdc
      simp only [hne, Bool.false_eq_true, if_false, hdc, and_false, false_or]

/-- The set put together from the characters that satisfy a predicate. -/
theorem testBit_foldl (p : Char → Bool) (entries : List (Char × Nat)) (s i : Nat) :
    (entries.foldl (fun set entry => if p entry.1 then set ||| entry.2 else set) s).testBit i = true ↔
      s.testBit i = true ∨ ∃ entry ∈ entries, p entry.1 = true ∧ entry.2.testBit i = true := by
  induction entries generalizing s with
  | nil => simp
  | cons entry rest ih =>
    rw [List.foldl_cons, ih]
    by_cases hp : p entry.1 = true
    · simp [hp, or_assoc]
    · simp [hp]

/-- **The positions before a character that satisfies a predicate.** -/
theorem mem_of_ofText (text : List Char) (p : Char → Bool) (i : Nat) :
    i ∈ positions ((ofText text).of p) ↔ ∃ c, text[i]? = some c ∧ p c = true := by
  rw [mem_positions]
  refine (testBit_foldl p _ 0 i).trans ?_
  -- the table holds a position for no character but its own
  have htable (c : Char) (set : Nat) (hset : set.testBit i = true) :
      (collect text 0 {})[c]? = some set → text[i]? = some c := by
    intro hc
    have hget : (collect text 0 {}).getD c 0 = set := by
      rw [Std.HashMap.getD_eq_getD_getElem?, hc, Option.getD_some]
    have := (testBit_collect text 0 {} c i).mp (by rw [hget]; exact hset)
    simpa using this
  refine ⟨?_, ?_⟩
  · rintro (h | ⟨⟨c, set⟩, hmem, hp, hset⟩)
    · simp at h
    · have hc := Std.HashMap.mem_toList_iff_getElem?_eq_some.mp hmem
      exact ⟨c, htable c set hset hc, hp⟩
  · rintro ⟨c, hc, hp⟩
    have hbit : ((collect text 0 {}).getD c 0).testBit i = true :=
      (testBit_collect text 0 {} c i).mpr (Or.inr ⟨Nat.zero_le i, by simpa using hc⟩)
    rw [Std.HashMap.getD_eq_getD_getElem?] at hbit
    cases hget : (collect text 0 {})[c]? with
    | none => simp [hget] at hbit
    | some set =>
      rw [hget, Option.getD_some] at hbit
      exact Or.inr ⟨(c, set), Std.HashMap.mem_toList_iff_getElem?_eq_some.mpr hget, hp, hbit⟩

@[simp] theorem length_ofText (text : List Char) : (ofText text).length = text.length := rfl

theorem mem_behind_ofText (text : List Char) (p : Char → Bool) (i : Nat) :
    i ∈ positions ((ofText text).behind p) ↔ ∃ c, charBefore text i = some c ∧ p c = true := by
  rw [behind, mem_positions_shiftLeft_one]
  refine ⟨?_, ?_⟩
  · rintro ⟨k, hk, rfl⟩
    obtain ⟨c, hc, hp⟩ := (mem_of_ofText text p k).mp hk
    exact ⟨c, by simpa [charBefore] using hc, hp⟩
  · rintro ⟨c, hc, hp⟩
    cases i with
    | zero => simp [charBefore] at hc
    | succ k =>
      have hk : text[k]? = some c := by simpa [charBefore] using hc
      exact ⟨k, (mem_of_ofText text p k).mpr ⟨c, hk, hp⟩, rfl⟩

theorem mem_last_ofText (text : List Char) {i : Nat} (hi : i ≤ text.length) :
    i ∈ positions (ofText text).last ↔ text[i]? = none := by
  rw [last, mem_positions_one_shiftLeft, length_ofText, List.getElem?_eq_none_iff]
  omega

theorem mem_one_iff_charBefore (text : List Char) {i : Nat} (hi : i ≤ text.length) :
    i ∈ positions 1 ↔ charBefore text i = none := by
  rw [mem_positions_one]
  cases i with
  | zero => simp [charBefore]
  | succ k =>
    have hk : k < text.length := hi
    simp [charBefore, hk]

/-- Whether a neighbouring character belongs to a word, as a statement about that character. -/
theorem covers_iff (rule : WordRule) (neighbour : Option Char) :
    (∃ c, neighbour = some c ∧ (rule.covers ∘ some) c = true) ↔ rule.covers neighbour = true := by
  cases neighbour with
  | none => simp [WordRule.covers]
  | some c => simp

/-- **The positions at which an assertion holds.** -/
theorem mem_holding_ofText (text : List Char) (claim : Assertion) {i : Nat} (hi : i ≤ text.length) :
    i ∈ positions ((ofText text).holding claim) ↔
      claim.holds (charBefore text i) text[i]? = true := by
  have hstart := mem_one_iff_charBefore text hi
  have hend := mem_last_ofText text hi
  have hall : i ∈ positions (ofText text).all := mem_positions_all.mpr hi
  -- an assertion looks at the two neighbours of the position, and each set speaks of one of them
  cases claim with
  | textStart => simp [holding, Assertion.holds, hstart]
  | textEnd => simp [holding, Assertion.holds, hend]
  | lineStart =>
    rw [holding, positions_or, Set.mem_union, hstart, mem_behind_ofText]
    simp [Assertion.holds]
  | lineEnd =>
    rw [holding, positions_or, Set.mem_union, hend, mem_of_ofText]
    simp [Assertion.holds]
  | anyLineStart =>
    -- behind a line feed, or behind a carriage return that no line feed follows
    rw [holding, positions_or, positions_or, positions_minus, Set.mem_union, Set.mem_union,
      Set.mem_sdiff, hstart, mem_behind_ofText, mem_behind_ofText, mem_of_ofText]
    simp [Assertion.holds]
  | anyLineEnd =>
    rw [holding, positions_or, positions_or, positions_minus, Set.mem_union, Set.mem_union,
      Set.mem_sdiff, hend, mem_of_ofText, mem_of_ofText, mem_behind_ofText]
    simp [Assertion.holds]
  | wordBoundary rule =>
    -- a boundary is where one neighbour is a word character and the other is not, as bits
    have hbefore := (mem_behind_ofText text (rule.covers ∘ some) i).trans (covers_iff rule _)
    have hafter := (mem_of_ofText text (rule.covers ∘ some) i).trans (covers_iff rule _)
    rw [mem_positions] at hbefore hafter
    rw [holding, mem_positions, Nat.testBit_xor, Bool.eq_iff_iff.mpr hbefore,
      Bool.eq_iff_iff.mpr hafter]
    rfl
  | notWordBoundary rule =>
    have hbefore := (mem_behind_ofText text (rule.covers ∘ some) i).trans (covers_iff rule _)
    have hafter := (mem_of_ofText text (rule.covers ∘ some) i).trans (covers_iff rule _)
    rw [mem_positions] at hbefore hafter
    -- the complement is taken among the positions of the text
    rw [holding, positions_minus, Set.mem_sdiff, mem_positions (s := _ ^^^ _), Nat.testBit_xor,
      Bool.eq_iff_iff.mpr hbefore, Bool.eq_iff_iff.mpr hafter]
    simp [Assertion.holds, hall]
  -- the last four are differences of these sets, or of one of them and all positions
  | wordStart rule =>
    rw [holding, positions_minus, Set.mem_sdiff, mem_of_ofText, mem_behind_ofText, covers_iff,
      covers_iff]
    simp [Assertion.holds, and_comm]
  | wordEnd rule =>
    rw [holding, positions_minus, Set.mem_sdiff, mem_of_ofText, mem_behind_ofText, covers_iff,
      covers_iff]
    simp [Assertion.holds]
  | wordStartHalf rule =>
    rw [holding, positions_minus, Set.mem_sdiff, mem_behind_ofText, covers_iff]
    simp [Assertion.holds, hall]
  | wordEndHalf rule =>
    rw [holding, positions_minus, Set.mem_sdiff, mem_of_ofText, covers_iff]
    simp [Assertion.holds, hall]

end Places

end RuleText
