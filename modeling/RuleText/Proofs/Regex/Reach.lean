import Mathlib.Data.Set.Lattice
import RuleText.Proofs.Regex.Places
import RuleText.Proofs.Regex.Spans
import RuleText.Regex.Reach

/-!
# Reaching positions

`Regex.reach` computes, from the positions where a match may begin, those where it may end. That it does is
an induction on the expression. Only repetitions need an argument: a fixed number of rounds may stop early
at a fixed point, and later rounds may continue from the new positions alone, since what follows from the
others has been found before. A repetition without an upper bound is given as many rounds as there are
positions; a round that adds no position is the last one that matters, so these are enough.

Main statements:

- `Computes.positions_rounds`, `Computes.positions_spread`: repeating a function on sets;
- `Regex.positions_reach`: the positions reached are those where matches end.
-/

namespace RuleText

/-! ### Sets of positions along a relation -/

/-- The positions to which a relation leads from a set. -/
def forward (R : Nat → Nat → Prop) (S : Set Nat) : Set Nat :=
  {j | ∃ i ∈ S, R i j}

@[simp] theorem forward_empty (R : Nat → Nat → Prop) : forward R ∅ = ∅ := by
  ext j
  simp [forward]

theorem forward_union (R : Nat → Nat → Prop) (S T : Set Nat) :
    forward R (S ∪ T) = forward R S ∪ forward R T := by
  ext j
  refine ⟨?_, ?_⟩
  · rintro ⟨i, hi | hi, hij⟩
    · exact Or.inl ⟨i, hi, hij⟩
    · exact Or.inr ⟨i, hi, hij⟩
  · rintro (⟨i, hi, hij⟩ | ⟨i, hi, hij⟩)
    · exact ⟨i, Or.inl hi, hij⟩
    · exact ⟨i, Or.inr hi, hij⟩

theorem forward_mono (R : Nat → Nat → Prop) {S T : Set Nat} (h : S ⊆ T) :
    forward R S ⊆ forward R T := by
  rintro j ⟨i, hi, hij⟩
  exact ⟨i, h hi, hij⟩

theorem forward_steps_zero (R : Nat → Nat → Prop) (S : Set Nat) : forward (Steps R 0) S = S := by
  ext j
  refine ⟨?_, ?_⟩
  · rintro ⟨i, hi, hij⟩
    obtain rfl : i = j := hij
    exact hi
  · intro hj
    exact ⟨j, hj, rfl⟩

theorem forward_steps_add (R : Nat → Nat → Prop) (m n : Nat) (S : Set Nat) :
    forward (Steps R (m + n)) S = forward (Steps R n) (forward (Steps R m) S) := by
  ext j
  refine ⟨?_, ?_⟩
  · rintro ⟨i, hi, hij⟩
    obtain ⟨k, hik, hkj⟩ := (steps_add_iff R m n i j).mp hij
    exact ⟨k, ⟨i, hi, hik⟩, hkj⟩
  · rintro ⟨k, ⟨i, hi, hik⟩, hkj⟩
    exact ⟨i, hi, hik.trans hkj⟩

theorem forward_steps_one (R : Nat → Nat → Prop) (S : Set Nat) :
    forward (Steps R 1) S = forward R S := by
  ext j
  simp only [forward, steps_one_iff]

theorem forward_steps_succ (R : Nat → Nat → Prop) (n : Nat) (S : Set Nat) :
    forward (Steps R (n + 1)) S = forward (Steps R n) (forward R S) := by
  rw [Nat.add_comm, forward_steps_add, forward_steps_one]

/-- A set that one round does not change is changed by no number of rounds. -/
theorem forward_steps_of_fixed {R : Nat → Nat → Prop} {S : Set Nat} (h : forward R S = S) (n : Nat) :
    forward (Steps R n) S = S := by
  induction n with
  | zero => exact forward_steps_zero R S
  | succ n ih => rw [forward_steps_succ, h, ih]

/-! ### Repeating a function on sets -/

/-- On sets of positions below a bound, the function follows a relation that does not leave the bound. -/
structure Computes (count : Nat) (f : Nat → Nat) (R : Nat → Nat → Prop) : Prop where
  keeps : ∀ i j, i < count → R i j → j < count
  positions_eq : ∀ s, positions s ⊆ Set.Iio count → positions (f s) = forward R (positions s)

namespace Computes

variable {count : Nat} {f : Nat → Nat} {R : Nat → Nat → Prop}

/-- What is computed stays below the bound. -/
theorem subset (hf : Computes count f R) {s : Nat} (hs : positions s ⊆ Set.Iio count) :
    positions (f s) ⊆ Set.Iio count := by
  rw [hf.positions_eq s hs]
  rintro j ⟨i, hi, hij⟩
  exact hf.keeps i j (hs hi) hij

theorem positions_rounds (hf : Computes count f R) (n : Nat) {s : Nat}
    (hs : positions s ⊆ Set.Iio count) :
    positions (rounds f n s) = forward (Steps R n) (positions s) := by
  induction n generalizing s with
  | zero => exact (forward_steps_zero R (positions s)).symm
  | succ n ih =>
    have hfs := hf.positions_eq s hs
    rw [rounds]
    by_cases h : f s = s
    · -- a fixed point stays what it is
      rw [if_pos h]
      rw [h] at hfs
      exact (forward_steps_of_fixed hfs.symm (n + 1)).symm
    · rw [if_neg h, ih (hf.subset hs), hfs, forward_steps_succ]

/-- What was seen is kept. -/
theorem subset_spread (f : Nat → Nat) (n seen fresh : Nat) :
    positions seen ⊆ positions (spread f n seen fresh) := by
  induction n generalizing seen fresh with
  | zero => exact subset_rfl
  | succ n ih =>
    rw [spread]
    by_cases h : f fresh ||| seen = seen
    · simp only [h, if_true]
      exact subset_rfl
    · simp only [h, if_false]
      refine subset_trans ?_ (ih _ _)
      rw [positions_or]
      exact Set.subset_union_right

/-- Nothing is found but what a chain of at most `n` steps leads to. -/
theorem exists_steps_of_mem_spread (hf : Computes count f R) {n seen fresh j : Nat}
    (hseen : positions seen ⊆ Set.Iio count) (hfresh : positions fresh ⊆ positions seen)
    (hj : j ∈ positions (spread f n seen fresh)) :
    ∃ i ∈ positions seen, ∃ k ≤ n, Steps R k i j := by
  induction n generalizing seen fresh with
  | zero => exact ⟨j, hj, 0, Nat.le_refl 0, rfl⟩
  | succ n ih =>
    rw [spread] at hj
    by_cases h : f fresh ||| seen = seen
    · simp only [h, if_true] at hj
      exact ⟨j, hj, 0, Nat.zero_le _, rfl⟩
    · simp only [h, if_false] at hj
      have hfresh' : positions fresh ⊆ Set.Iio count := hfresh.trans hseen
      have hall : positions (f fresh ||| seen) ⊆ Set.Iio count := by
        rw [positions_or]
        exact Set.union_subset (hf.subset hfresh') hseen
      have hnew : positions ((f fresh ||| seen) ^^^ seen) ⊆ positions (f fresh ||| seen) := by
        rw [positions_xor_of_subset (by rw [positions_or]; exact Set.subset_union_right)]
        exact Set.sdiff_subset
      -- the chain begins at a position seen now, so with one step more at one seen before
      obtain ⟨i, hi, k, hk, hij⟩ := ih hall hnew hj
      rw [positions_or, hf.positions_eq fresh hfresh'] at hi
      rcases hi with ⟨l, hl, hli⟩ | hi
      · exact ⟨l, hfresh hl, k + 1, Nat.succ_le_succ hk, i, hli, hij⟩
      · exact ⟨i, hi, k, Nat.le_succ_of_le hk, hij⟩

/-- **Everything is found.** The invariant is that what follows in one step from a position seen but not
fresh has been seen too. The fuel is enough for a chain if it bounds its length, or if not even adding one
position in every round would use it up. -/
theorem mem_spread_of_steps (hf : Computes count f R) {n seen fresh i j k : Nat}
    (hseen : positions seen ⊆ Set.Iio count) (hfresh : positions fresh ⊆ positions seen)
    (hold : forward R (positions seen \ positions fresh) ⊆ positions seen)
    (hi : i ∈ positions seen) (hij : Steps R k i j)
    (hn : k ≤ n ∨ count ≤ n + countBelow count seen) :
    j ∈ positions (spread f n seen fresh) := by
  induction n generalizing seen fresh i k with
  | zero =>
    rcases hn with hk | hcount
    · -- no fuel is left: either there is no step to take, or every position has been seen
      obtain rfl : k = 0 := Nat.le_zero.mp hk
      obtain rfl : i = j := hij
      exact hi
    · have hj : j < count := hij.stays (P := (· < count)) hf.keeps (hseen hi)
      rw [Nat.zero_add] at hcount
      exact mem_of_le_countBelow hcount hj
  | succ n ih =>
    have hfresh' : positions fresh ⊆ Set.Iio count := hfresh.trans hseen
    -- from a position seen, one step leads to what is seen after the round
    have hnext : forward R (positions seen) ⊆ positions (f fresh ||| seen) := by
      rw [positions_or, hf.positions_eq fresh hfresh']
      rintro b ⟨a, ha, hab⟩
      by_cases haf : a ∈ positions fresh
      · exact Or.inl ⟨a, haf, hab⟩
      · exact Or.inr (hold ⟨a, ⟨ha, haf⟩, hab⟩)
    rw [spread]
    by_cases h : f fresh ||| seen = seen
    · -- nothing new: what was seen is closed under further steps
      simp only [h, if_true]
      rw [h] at hnext
      exact hij.stays (P := (· ∈ positions seen)) (fun a b ha hab => hnext ⟨a, ha, hab⟩) hi
    · simp only [h, if_false]
      have hsub : positions seen ⊆ positions (f fresh ||| seen) := by
        rw [positions_or]
        exact Set.subset_union_right
      have hall : positions (f fresh ||| seen) ⊆ Set.Iio count := by
        rw [positions_or]
        exact Set.union_subset (hf.subset hfresh') hseen
      have hxor := positions_xor_of_subset hsub
      cases k with
      | zero =>
        obtain rfl : i = j := hij
        exact subset_spread f n _ _ (hsub hi)
      | succ k =>
        -- the first step of the chain is taken in this round
        obtain ⟨l, hil, hlj⟩ := hij
        refine ih hall (hxor.trans_subset Set.sdiff_subset) ?_ (hnext ⟨i, hi, hil⟩) hlj ?_
        · rw [hxor, Set.sdiff_sdiff_cancel_left hsub]
          exact hnext
        · rcases hn with hk | hcount
          · exact Or.inl (Nat.le_of_succ_le_succ hk)
          · -- the round has added a position
            obtain ⟨a, hall', hnew⟩ : ∃ a ∈ positions (f fresh ||| seen), a ∉ positions seen := by
              by_contra hnone
              push Not at hnone
              exact h (positions_injective (Set.Subset.antisymm hnone hsub))
            have := countBelow_lt hsub (hall hall') hnew hall'
            exact Or.inr (by omega)

/-- What a number of further rounds reaches. -/
theorem positions_spread (hf : Computes count f R) (n : Nat) {start : Nat}
    (hstart : positions start ⊆ Set.Iio count) :
    positions (spread f n start start) = ⋃ k ≤ n, forward (Steps R k) (positions start) := by
  ext j
  simp only [Set.mem_iUnion, exists_prop]
  refine ⟨?_, ?_⟩
  · intro hj
    obtain ⟨i, hi, k, hk, hij⟩ := hf.exists_steps_of_mem_spread hstart subset_rfl hj
    exact ⟨k, hk, i, hi, hij⟩
  · rintro ⟨k, hk, i, hi, hij⟩
    exact hf.mem_spread_of_steps hstart subset_rfl (by simp) hi hij (Or.inl hk)

/-- As many rounds as there are positions reach all that any number of rounds does. -/
theorem positions_spread_count (hf : Computes count f R) {start : Nat}
    (hstart : positions start ⊆ Set.Iio count) :
    positions (spread f count start start) = ⋃ k, forward (Steps R k) (positions start) := by
  ext j
  simp only [Set.mem_iUnion]
  refine ⟨?_, ?_⟩
  · intro hj
    obtain ⟨i, hi, k, -, hij⟩ := hf.exists_steps_of_mem_spread hstart subset_rfl hj
    exact ⟨k, i, hi, hij⟩
  · rintro ⟨k, i, hi, hij⟩
    exact hf.mem_spread_of_steps hstart subset_rfl (by simp) hi hij
      (Or.inr (Nat.le_add_right _ _))

end Computes

/-! ### Expressions over sets of positions -/

namespace Regex

/-- The meaning of an expression whose leaves are sets of positions. -/
def Leads (r : Regex Nat Nat) : Nat → Nat → Prop :=
  r.Spans (fun s i => i ∈ positions s) (fun a i => i ∈ positions a)

/-- No step of the expression leads to a position from `count` on. -/
def Within (count : Nat) : Regex Nat Nat → Prop
  | empty | assert _ => True
  | one steps => ∀ i ∈ positions steps, i + 1 < count
  | seq q r | alt q r => q.Within count ∧ r.Within count
  | times r _ _ => r.Within count

theorem Leads.lt_count {count : Nat} {r : Regex Nat Nat} (hr : r.Within count) {i j : Nat}
    (hi : i < count) (h : r.Leads i j) : j < count := by
  -- by the structure of the expression; only a leaf takes a step
  induction r generalizing i j with
  | empty =>
    obtain rfl : i = j := h
    exact hi
  | one steps =>
    obtain ⟨hs, rfl⟩ := h
    exact hr i hs
  | assert a =>
    obtain ⟨-, rfl⟩ := h
    exact hi
  | seq q r ihq ihr =>
    obtain ⟨k, hik, hkj⟩ := h
    exact ihr hr.2 (ihq hr.1 hi hik) hkj
  | alt q r ihq ihr =>
    rcases h with h | h
    · exact ihq hr.1 hi h
    · exact ihr hr.2 hi h
  | times r least most ih =>
    obtain ⟨n, -, -, hn⟩ := h
    exact hn.stays (P := (· < count)) (fun a b ha hab => ih hr ha hab) hi

/-- The positions where a repetition of an expression ends. -/
theorem forward_leads_times (r : Regex Nat Nat) (least : Nat) (most : Option Nat) (S : Set Nat) :
    forward (times r least most).Leads S =
      ⋃ n, ⋃ (_ : least ≤ n), ⋃ (_ : ∀ m, most = some m → n ≤ m), forward (Steps r.Leads n) S := by
  ext j
  simp only [Set.mem_iUnion, exists_prop]
  refine ⟨?_, ?_⟩
  · rintro ⟨i, hi, n, hleast, hmost, hn⟩
    exact ⟨n, hleast, hmost, i, hi, hn⟩
  · rintro ⟨n, hleast, hmost, i, hi, hn⟩
    exact ⟨i, hi, n, hleast, hmost, hn⟩

theorem forward_leads_seq (q r : Regex Nat Nat) (S : Set Nat) :
    forward (seq q r).Leads S = forward r.Leads (forward q.Leads S) := by
  ext j
  refine ⟨?_, ?_⟩
  · rintro ⟨i, hi, k, hik, hkj⟩
    exact ⟨k, ⟨i, hi, hik⟩, hkj⟩
  · rintro ⟨k, ⟨i, hi, hik⟩, hkj⟩
    exact ⟨i, hi, k, hik, hkj⟩

theorem forward_leads_alt (q r : Regex Nat Nat) (S : Set Nat) :
    forward (alt q r).Leads S = forward q.Leads S ∪ forward r.Leads S := by
  ext j
  refine ⟨?_, ?_⟩
  · rintro ⟨i, hi, hij | hij⟩
    · exact Or.inl ⟨i, hi, hij⟩
    · exact Or.inr ⟨i, hi, hij⟩
  · rintro (⟨i, hi, hij⟩ | ⟨i, hi, hij⟩)
    · exact ⟨i, hi, Or.inl hij⟩
    · exact ⟨i, hi, Or.inr hij⟩

/-- A repetition computes the positions where it ends if its body does: the least number of rounds first,
then those that may follow. -/
theorem positions_reach_times {count : Nat} {r : Regex Nat Nat} (hf : Computes count (r.reach count) r.Leads)
    (least : Nat) (most : Option Nat) {s : Nat} (hs : positions s ⊆ Set.Iio count) :
    positions ((times r least most).reach count s) = forward (times r least most).Leads (positions s) := by
  have hstart := hf.positions_rounds least hs
  -- the rounds that are asked for do not lead out of the text either
  have hbound : positions (rounds (r.reach count) least s) ⊆ Set.Iio count := by
    rw [hstart]
    rintro j ⟨i, hi, hij⟩
    exact hij.stays (P := (· < count)) hf.keeps (hs hi)
  rw [forward_leads_times]
  cases most with
  | none =>
    -- with no bound, any number of rounds more may follow
    simp only [reach, Option.any_none, Bool.false_eq_true, if_false]
    rw [hf.positions_spread_count hbound, hstart]
    ext j
    -- a number of rounds from the least on is the least and some more
    simp only [Set.mem_iUnion, exists_prop, ← forward_steps_add]
    refine ⟨?_, ?_⟩
    · rintro ⟨k, hj⟩
      exact ⟨least + k, Nat.le_add_right _ _, by simp, hj⟩
    · rintro ⟨n, hleast, -, hj⟩
      obtain ⟨k, rfl⟩ := Nat.exists_eq_add_of_le hleast
      exact ⟨k, hj⟩
  | some m =>
    simp only [reach, Option.any_some, decide_eq_true_eq]
    by_cases hm : m < least
    · -- fewer rounds are allowed than are asked for
      rw [if_pos hm, positions_zero]
      ext j
      simp only [Set.mem_iUnion, exists_prop, Set.mem_empty_iff_false, false_iff]
      rintro ⟨n, hleast, hmost, -⟩
      have hle := hmost m rfl
      omega
    · -- and else only so many more as are left of the bound
      rw [if_neg hm, hf.positions_spread (m - least) hbound, hstart]
      ext j
      simp only [Set.mem_iUnion, exists_prop, ← forward_steps_add]
      refine ⟨?_, ?_⟩
      · rintro ⟨k, hk, hj⟩
        refine ⟨least + k, Nat.le_add_right _ _, ?_, hj⟩
        rintro m' ⟨⟩
        omega
      · rintro ⟨n, hleast, hmost, hj⟩
        obtain ⟨k, rfl⟩ := Nat.exists_eq_add_of_le hleast
        have hle := hmost m rfl
        exact ⟨k, by omega, hj⟩

/-- **The positions reached are those where matches end.** -/
theorem positions_reach {count : Nat} {r : Regex Nat Nat} (hr : r.Within count) {s : Nat}
    (hs : positions s ⊆ Set.Iio count) :
    positions (r.reach count s) = forward r.Leads (positions s) := by
  -- the induction is on the expression; each operation on bits is one on sets
  induction r generalizing s with
  | empty => exact (forward_steps_zero (empty : Regex Nat Nat).Leads (positions s)).symm
  | one steps =>
    ext j
    -- a step leads from a position to the next one, which is a shift
    rw [reach, mem_positions_shiftLeft_one, positions_and]
    refine ⟨?_, ?_⟩
    · rintro ⟨i, ⟨hi, hstep⟩, rfl⟩
      exact ⟨i, hi, hstep, rfl⟩
    · rintro ⟨i, hi, hstep, rfl⟩
      exact ⟨i, ⟨hi, hstep⟩, rfl⟩
  | assert a =>
    ext j
    -- an assertion only keeps some of the positions
    rw [reach, positions_and]
    refine ⟨?_, ?_⟩
    · rintro ⟨hj, ha⟩
      exact ⟨j, hj, ha, rfl⟩
    · rintro ⟨i, hi, ha, rfl⟩
      exact ⟨hi, ha⟩
  | seq q r ihq ihr =>
    have hq := ihq hr.1 hs
    -- the second part begins where the first one ends, still within the text
    have hmiddle : positions (q.reach count s) ⊆ Set.Iio count := by
      rw [hq]
      rintro k ⟨i, hi, hik⟩
      exact hik.lt_count hr.1 (hs hi)
    rw [reach, ihr hr.2 hmiddle, hq, forward_leads_seq]
  | alt q r ihq ihr =>
    rw [reach, positions_or, ihq hr.1 hs, ihr hr.2 hs, forward_leads_alt]
  | times r least most ih =>
    have hbody : r.Within count := hr
    -- all that a repetition takes from its body is that it computes and stays within the text
    have hf : Computes count (r.reach count) r.Leads :=
      ⟨fun i j hi hij => hij.lt_count hbody hi, fun s hs => ih hbody hs⟩
    exact positions_reach_times hf least most hs

end Regex

end RuleText
