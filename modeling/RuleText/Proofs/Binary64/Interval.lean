import RuleText.Binary64.Shortest
import RuleText.Proofs.Binary64.Exact

/-!
# The numbers that read as a value

The interval around a value holds the numbers that are rounded to it. The half of the last place on either side
counts while the significand is even. Below a power of two the neighbour is only half as far away, and so is
the end of the interval, unless the exponent cannot become less.

What is in the interval is rounded at the place of the value or, below a power of two, at the next place, from
where it is carried back. And a number that is rounded to the value has come one of these two ways. So the
interval is exactly what a decimal number has to be in to read as the value; numbers that are recognized by
their magnitude alone are beyond the intervals of all finite values but zero.

Main definitions:

- `Interval.Mem`: the numbers in an interval;
- `halfBelow`: how far an interval goes down, in units of the last place.

Main statements:

- `Interval.holds_iff`: the test in natural numbers;
- `Interval.mem_around_iff`: the interval around a value, in units of the last place;
- `Binary64.ofDecimal_eq_iff`: the decimal numbers that read as a value are those in its interval.
-/

namespace RuleText

namespace Interval

/-! ### Numbers in an interval -/

/-- A number lies in an interval. -/
def Mem (i : Interval) (x : ℚ) : Prop :=
  Between i.closed (i.low * 2 ^ i.unit) (i.high * 2 ^ i.unit) x

/-- The unit of an interval and a power of ten, multiplied by one number. -/
theorem scales_eq (i : Interval) (k : Int) :
    0 < (i.scales k).2 ∧ ∃ w : ℚ, 0 < w ∧ ((i.scales k).1 : ℚ) * w = 2 ^ i.unit ∧
      ((i.scales k).2 : ℚ) * w = 10 ^ k := by
  obtain ⟨-, hq, hunit⟩ := powTwo_eq i.unit
  obtain ⟨hr, hs, hten⟩ := powTen_eq k
  have hq' : (0 : ℚ) < (powTwo i.unit).2 := Nat.cast_pos.mpr hq
  have hs' : (0 : ℚ) < (powTen k).2 := Nat.cast_pos.mpr hs
  -- the number is one over the common denominator
  refine ⟨Nat.mul_pos hq hr, 1 / ((powTwo i.unit).2 * (powTen k).2), by positivity, ?_, ?_⟩
  · simp only [scales, Nat.cast_mul, hunit]
    field_simp
  · simp only [scales, Nat.cast_mul, hten]
    field_simp

/-- The test of an interval on numbers that are multiplied out. -/
theorem holds_eq_true_iff (i : Interval) (a b c : Nat) :
    i.holds a b c = true ↔ Between i.closed ((i.low : ℚ) * a) (i.high * a) (c * b) := by
  unfold holds
  cases i.closed with
  | true =>
    simp only [if_true, Bool.and_eq_true, decide_eq_true_eq]
    exact and_congr (by exact_mod_cast Iff.rfl) (by exact_mod_cast Iff.rfl)
  | false =>
    simp only [Bool.false_eq_true, if_false, Bool.and_eq_true, decide_eq_true_eq]
    exact and_congr (by exact_mod_cast Iff.rfl) (by exact_mod_cast Iff.rfl)

/-- **The test in natural numbers** finds out whether a decimal number lies in an interval. -/
theorem holds_iff (i : Interval) (k : Int) (c : Nat) :
    i.holds (i.scales k).1 (i.scales k).2 c = true ↔ i.Mem (c * 10 ^ k) := by
  obtain ⟨-, w, hw, hunit, hten⟩ := i.scales_eq k
  rw [holds_eq_true_iff, ← Between.mul_iff hw, mul_assoc, mul_assoc, mul_assoc, hunit, hten]
  rfl

/-! ### The interval around a value -/

/-- How far the interval around a value goes down, in units of the last place. -/
def halfBelow (significand : Nat) (exponent : Int) : ℚ :=
  if significand = 2 ^ 52 ∧ Binary64.minExponent < exponent then 1 / 4 else 1 / 2

variable {significand : Nat} {exponent : Int} {x : ℚ}

theorem halfBelow_pos : 0 < halfBelow significand exponent := by
  unfold halfBelow
  split <;> norm_num

theorem halfBelow_le : halfBelow significand exponent ≤ 1 / 2 := by
  unfold halfBelow
  split <;> norm_num

/-- The interval around a value is measured in quarters of the last place. -/
theorem unit_around : (2 : ℚ) ^ (around significand exponent).unit = 2 ^ exponent / 4 := by
  show (2 : ℚ) ^ (exponent - 2) = _
  rw [zpow_sub₀ two_ne_zero]
  norm_num

theorem low_around (hs : 0 < significand) :
    ((around significand exponent).low : ℚ) * 2 ^ (around significand exponent).unit =
      (significand - halfBelow significand exponent) * 2 ^ exponent := by
  rw [unit_around]
  show ((4 * significand -
    (if significand = 2 ^ 52 ∧ Binary64.minExponent < exponent then 1 else 2) : Nat) : ℚ) * _ = _
  unfold halfBelow
  split
  · rw [Nat.cast_sub (by omega)]
    push_cast
    ring
  · rw [Nat.cast_sub (by omega)]
    push_cast
    ring

theorem high_around :
    ((around significand exponent).high : ℚ) * 2 ^ (around significand exponent).unit =
      (significand + 1 / 2) * 2 ^ exponent := by
  rw [unit_around]
  show ((4 * significand + 2 : Nat) : ℚ) * (2 ^ exponent / 4) = _
  push_cast
  ring

/-- **The interval around a value**, in units of the last place. -/
theorem mem_around_iff (hs : 0 < significand) :
    (around significand exponent).Mem x ↔
      Between (significand % 2 = 0) (significand - halfBelow significand exponent) (significand + 1 / 2)
        (x / 2 ^ exponent) := by
  have hpos : (0 : ℚ) < 2 ^ exponent := by positivity
  rw [← Between.mul_iff hpos, div_mul_cancel₀ _ hpos.ne']
  unfold Mem
  rw [low_around hs, high_around]
  rfl

end Interval

namespace Binary64

open RuleText.Interval

/-! ### Rounding to a value -/

variable {significand : Nat} {exponent : Int} {x : ℚ}

/-- The place at which a number is rounded leaves room for the significand and none to spare. -/
theorem placeOf_eq (hx : 0 < x) (hleast : minExponent ≤ exponent) (hhigh : x / 2 ^ exponent < 2 ^ 53)
    (hlow : 2 ^ 52 ≤ x / 2 ^ exponent ∨ exponent = minExponent) : placeOf x = exponent := by
  have hpos : (0 : ℚ) < 2 ^ exponent := by positivity
  have hmost : Int.log 2 x < 53 + exponent := by
    rw [← Int.lt_zpow_iff_log_lt (by decide) hx, Nat.cast_ofNat, zpow_add₀ two_ne_zero]
    exact (div_lt_iff₀ hpos).mp hhigh
  have hfull : 52 + exponent ≤ Int.log 2 x ∨ exponent = minExponent := by
    refine hlow.imp_left fun hlow => ?_
    rw [← Int.zpow_le_iff_le_log (by decide) hx, Nat.cast_ofNat, zpow_add₀ two_ne_zero]
    exact (le_div_iff₀ hpos).mp hlow
  unfold placeOf
  omega

theorem ofRatio_of_rounds (negative : Bool) {num den : Nat} (hnum : 0 < num) (hden : 0 < den)
    (hx : x = (num : ℚ) / den) (hplace : placeOf x = exponent) (hmost : exponent ≤ maxExponent)
    (hround : Rounds (x / 2 ^ exponent) significand) (hbelow : significand ≠ 2 ^ 53) :
    ofRatio negative num den = .finite negative significand exponent := by
  obtain ⟨n, hn, -, hfits⟩ := ofRatio_rounds negative hnum hden hx
  rw [hplace] at hn hfits
  obtain rfl := hn.unique hround
  rw [hfits hbelow, if_neg (not_lt.mpr hmost)]

/-- What lies in the interval around a value is rounded to it. -/
theorem ofRatio_of_mem (negative : Bool) (h : Canonical significand exponent) (hs : 0 < significand)
    {num den : Nat} (hnum : 0 < num) (hden : 0 < den) (hx : x = (num : ℚ) / den)
    (hmem : (around significand exponent).Mem x) :
    ofRatio negative num den = .finite negative significand exponent := by
  have hpos : 0 < x := by
    rw [hx]
    exact div_pos (Nat.cast_pos.mpr hnum) (Nat.cast_pos.mpr hden)
  have hbelow : (significand : ℚ) + 1 ≤ 2 ^ 53 := by exact_mod_cast h.below
  rw [mem_around_iff hs] at hmem
  have hhigh : x / 2 ^ exponent < 2 ^ 53 := by linarith [hmem.le.2]
  have hne : significand ≠ 2 ^ 53 := Nat.ne_of_lt h.below
  by_cases hpower : significand = 2 ^ 52 ∧ minExponent < exponent
  · obtain ⟨rfl, hleast⟩ := hpower
    have hhalf : halfBelow (2 ^ 52) exponent = 1 / 4 := if_pos ⟨rfl, hleast⟩
    rw [hhalf] at hmem
    push_cast at hmem
    rcases le_or_gt (2 ^ 52) (x / 2 ^ exponent) with hlow | hlow
    · -- on this side of the power of two nothing is carried
      have hround : Rounds (x / 2 ^ exponent) (2 ^ 52) := by
        unfold Rounds
        push_cast
        exact ⟨by linarith, hmem.le.2⟩
      exact ofRatio_of_rounds negative hnum hden hx (placeOf_eq hpos h.least hhigh (Or.inl hlow)) h.most hround hne
    · -- below it there is one bit more, which rounding makes a carry of
      have htwice : x / 2 ^ (exponent - 1) = 2 * (x / 2 ^ exponent) := by
        rw [zpow_sub_one₀ two_ne_zero]
        field_simp
      have hplace : placeOf x = exponent - 1 := by
        refine placeOf_eq hpos (by omega) ?_ (Or.inl ?_)
        · rw [htwice]
          linarith
        · rw [htwice]
          linarith [hmem.le.1]
      obtain ⟨n, hn, hlong, -⟩ := ofRatio_rounds negative hnum hden hx
      rw [hplace] at hn hlong
      have hround : Rounds (x / 2 ^ (exponent - 1)) (2 ^ 53) := by
        unfold Rounds
        push_cast
        rw [htwice]
        exact ⟨by linarith [hmem.le.1], by linarith⟩
      rw [hlong (hn.unique hround), sub_add_cancel, if_neg (not_lt.mpr h.most)]
  · -- everywhere else the interval is that of rounding to the significand
    have hround : Rounds (x / 2 ^ exponent) significand := by
      have hhalf : halfBelow significand exponent = 1 / 2 := if_neg hpower
      rwa [hhalf] at hmem
    refine ofRatio_of_rounds negative hnum hden hx (placeOf_eq hpos h.least hhigh ?_) h.most hround hne
    rcases h.full with hfull | hleast
    · by_cases hexponent : exponent = minExponent
      · exact Or.inr hexponent
      · -- a full significand that is no power of two has its whole interval above the power
        left
        have hgreater : 2 ^ 52 < significand :=
          lt_of_le_of_ne hfull fun heq => hpower ⟨heq.symm, lt_of_le_of_ne h.least (Ne.symm hexponent)⟩
        have hcast : (2 : ℚ) ^ 52 + 1 ≤ significand := by exact_mod_cast hgreater
        linarith [(Between.le hround).1]
    · exact Or.inr hleast

/-- And what is rounded to a value lies in the interval around it. -/
theorem mem_of_ofRatio {negative : Bool} (hs : 0 < significand) {num den : Nat} (hnum : 0 < num)
    (hden : 0 < den) (hx : x = (num : ℚ) / den)
    (h : ofRatio negative num den = .finite negative significand exponent) :
    (around significand exponent).Mem x := by
  have hpos : 0 < x := by
    rw [hx]
    exact div_pos (Nat.cast_pos.mpr hnum) (Nat.cast_pos.mpr hden)
  have hleast : minExponent ≤ placeOf x := le_max_right _ _
  obtain ⟨n, hround, hlong, hfits⟩ := ofRatio_rounds negative hnum hden hx
  rw [mem_around_iff hs]
  -- the significand is what the number is rounded to, unless that is one bit too long
  by_cases hn : n = 2 ^ 53
  · rw [hlong hn] at h
    split at h
    · cases h
    · cases h
      -- in units of the place after the carry, half of a unit is a quarter
      have hhalf : halfBelow (2 ^ 52) (placeOf x + 1) = 1 / 4 := if_pos ⟨rfl, by omega⟩
      have hplace : x / 2 ^ (placeOf x + 1) = x / 2 ^ placeOf x / 2 := by
        rw [zpow_add_one₀ two_ne_zero, div_div]
      have hlow := (Between.le hround).1
      rw [hn] at hlow
      push_cast at hlow
      rw [hhalf, hplace]
      push_cast
      exact ⟨by linarith, by linarith [lt_placeOf x]⟩
  · rw [hfits hn] at h
    split at h
    · cases h
    · cases h
      unfold halfBelow
      split
      · rename_i hpower
        obtain ⟨rfl, hexponent⟩ := hpower
        -- a number that is rounded at this place without a carry is not below the power of two
        have hlow := le_placeOf hpos hexponent
        push_cast
        exact ⟨by linarith, by exact_mod_cast (Between.le hround).2⟩
      · exact hround

/-! ### Reading a decimal number -/

/-- Numbers in the interval around a value that is not zero are neither tiny nor huge. -/
theorem bounds_of_mem (h : Canonical significand exponent) (hs : 0 < significand)
    (hmem : (around significand exponent).Mem x) : 2 ^ (-1075 : Int) ≤ x ∧ x < 2 ^ (1024 : Int) := by
  have hpos : (0 : ℚ) < 2 ^ exponent := by positivity
  have hone : (1 : ℚ) ≤ significand := by exact_mod_cast hs
  have hbelow : (significand : ℚ) + 1 ≤ 2 ^ 53 := by exact_mod_cast h.below
  rw [mem_around_iff hs] at hmem
  obtain ⟨hlow, hhigh⟩ := hmem.le
  have hhalf : halfBelow significand exponent ≤ 1 / 2 := halfBelow_le
  have hleast : (2 : ℚ) ^ minExponent ≤ 2 ^ exponent := zpow_le_zpow_right₀ one_le_two h.least
  have hmost : (2 : ℚ) ^ exponent ≤ 2 ^ maxExponent := zpow_le_zpow_right₀ one_le_two h.most
  constructor
  · calc (2 : ℚ) ^ (-1075 : Int) = 2 ^ (-1 : Int) * 2 ^ minExponent :=
          zpow_add₀ two_ne_zero (-1) minExponent
      _ ≤ 2 ^ (-1 : Int) * 2 ^ exponent := mul_le_mul_of_nonneg_left hleast (by positivity)
      _ ≤ x := by
          refine (le_div_iff₀ hpos).mp ?_
          rw [zpow_neg_one]
          linarith
  · calc x < 2 ^ (53 : Int) * 2 ^ exponent := by
          refine (div_lt_iff₀ hpos).mp ?_
          rw [zpow_ofNat]
          linarith
      _ ≤ 2 ^ (53 : Int) * 2 ^ maxExponent := mul_le_mul_of_nonneg_left hmost (by positivity)
      _ = 2 ^ (1024 : Int) := (zpow_add₀ two_ne_zero 53 maxExponent).symm

/-- **The decimal numbers that read as a value** are those in the interval around it. -/
theorem ofDecimal_eq_iff (negative : Bool) (h : Canonical significand exponent) (hs : 0 < significand)
    (digits : Nat) (k : Int) :
    ofDecimal negative digits k = .finite negative significand exponent ↔
      (around significand exponent).Mem (digits * 10 ^ k) := by
  rcases Nat.eq_zero_or_pos digits with rfl | hdigits
  · -- zero is the value of no other significand, and in no interval around one
    have hzero : ofDecimal negative 0 k = zero negative := by
      unfold ofDecimal
      exact if_pos (Or.inl rfl)
    rw [hzero]
    refine iff_of_false ?_ fun hmem => ?_
    · intro heq
      cases heq
      exact absurd hs (Nat.lt_irrefl 0)
    · have hlow := (bounds_of_mem h hs hmem).1
      rw [Nat.cast_zero, zero_mul] at hlow
      exact absurd hlow (not_le.mpr (by positivity))
  · have hpos : (0 : ℚ) < digits * 10 ^ k := by
      have hcast : (0 : ℚ) < digits := Nat.cast_pos.mpr hdigits
      positivity
    have hlog := log_decimal hdigits k
    unfold ofDecimal
    simp only
    split
    · rename_i hsmall
      -- the number is below all intervals
      refine iff_of_false ?_ fun hmem => ?_
      · intro heq
        cases heq
        exact absurd hs (Nat.lt_irrefl 0)
      · have htiny : (digits : ℚ) * 10 ^ k < 10 ^ (-331 : Int) := by
          have hlt := (Int.lt_zpow_iff_log_lt (b := 10) (by decide) (x := -331) hpos).mpr (by omega)
          rwa [Nat.cast_ofNat] at hlt
        have hcompare : (10 : ℚ) ^ (-331 : Int) < 2 ^ (-1075 : Int) := by
          rw [zpow_neg, zpow_neg]
          refine inv_strictAnti₀ (by positivity) ?_
          exact_mod_cast (by decide +kernel : 2 ^ 1075 < 10 ^ 331)
        exact (htiny.trans hcompare).not_ge (bounds_of_mem h hs hmem).1
    · split
      · rename_i hlarge
        -- or above them
        refine iff_of_false nofun fun hmem => ?_
        have hhuge : (10 : ℚ) ^ (310 : Int) ≤ digits * 10 ^ k := by
          have hle := (Int.zpow_le_iff_le_log (b := 10) (by decide) (x := 310) hpos).mpr (by omega)
          rwa [Nat.cast_ofNat] at hle
        have hcompare : (2 : ℚ) ^ (1024 : Int) < 10 ^ (310 : Int) := by
          exact_mod_cast (by decide +kernel : 2 ^ 1024 < 10 ^ 310)
        exact (hcompare.trans_le hhuge).not_gt (bounds_of_mem h hs hmem).2
      · -- in between it is a quotient, which is rounded to the value exactly if it lies in the interval
        obtain ⟨hp, hq, hpower⟩ := powTen_eq k
        have hx : (digits : ℚ) * 10 ^ k = ((digits * (powTen k).1 : Nat) : ℚ) / (powTen k).2 := by
          have hq' : ((powTen k).2 : ℚ) ≠ 0 := Nat.cast_ne_zero.mpr (Nat.ne_of_gt hq)
          rw [Nat.cast_mul, hpower, ← mul_assoc, mul_div_cancel_right₀ _ hq']
        have hnum : 0 < digits * (powTen k).1 := Nat.mul_pos hdigits hp
        exact ⟨mem_of_ofRatio hs hnum hq hx, ofRatio_of_mem negative h hs hnum hq hx⟩

end Binary64

end RuleText
