import Mathlib.Algebra.Order.Field.Power
import Mathlib.Data.Int.Log
import Mathlib.Data.Rat.Floor
import Mathlib.Tactic.FieldSimp
import Mathlib.Tactic.Linarith
import Mathlib.Tactic.Positivity
import RuleText.Binary64.Basic

/-!
# Rounding in exact arithmetic

All numbers are handled as quotients of natural numbers, so what is computed with them can be said in rational
numbers: powers of two and of ten are powers, the binary logarithm is the logarithm, and the nearest integer to
a quotient is the one that is no further away than half a unit. A half goes to the even neighbour; so the
numbers that round to an even integer are a closed interval, and those that round to an odd one an open
interval (`Between`).

A value is rounded at the last place that a significand has room for, which the logarithm tells. Rounding may
make the significand one bit longer, but then it is a power of two and goes with the next exponent. So finite
values always come in one form (`Binary64.Canonical`).

Main definitions:

- `Between`: intervals with both of their ends or with none;
- `Rounds`: the numbers that round to an integer;
- `Binary64.Canonical`: the form of finite values.

Main statements:

- `rounds_roundDiv`, `Rounds.unique`: the nearest integer to a quotient;
- `Binary64.floorLog2_eq`: the binary logarithm of a quotient;
- `Binary64.ofRatio_rounds`: how a quotient is rounded to a value;
- `Binary64.canonical_ofDecimal`: finite values are made in canonical form.
-/

namespace RuleText

/-! ### Powers -/

/-- A power with any exponent as the quotient of a power and one, or of one and a power. -/
theorem pow_quotient {b : Nat} (hb : 0 < b) (e : Int) :
    let pair : Nat × Nat := if 0 ≤ e then (Nat.pow b e.toNat, 1) else (1, Nat.pow b (-e).toNat)
    0 < pair.1 ∧ 0 < pair.2 ∧ (pair.1 : ℚ) = (b : ℚ) ^ e * pair.2 := by
  by_cases he : 0 ≤ e
  · obtain ⟨n, rfl⟩ := Int.eq_ofNat_of_zero_le he
    simp only [if_pos he, Int.toNat_natCast]
    refine ⟨Nat.pow_pos hb, Nat.one_pos, ?_⟩
    show ((b ^ n : Nat) : ℚ) = (b : ℚ) ^ (n : Int) * (1 : Nat)
    rw [Nat.cast_pow, zpow_natCast, Nat.cast_one, mul_one]
  · obtain ⟨n, rfl⟩ : ∃ n : Nat, e = -n := ⟨(-e).toNat, by omega⟩
    simp only [if_neg he, neg_neg, Int.toNat_natCast]
    refine ⟨Nat.one_pos, Nat.pow_pos hb, ?_⟩
    show ((1 : Nat) : ℚ) = (b : ℚ) ^ (-(n : Int)) * (b ^ n : Nat)
    have hb0 : (b : ℚ) ≠ 0 := Nat.cast_ne_zero.mpr (Nat.ne_of_gt hb)
    rw [zpow_neg, zpow_natCast, Nat.cast_pow, Nat.cast_one, inv_mul_cancel₀ (pow_ne_zero n hb0)]

theorem powTwo_eq (e : Int) :
    0 < (powTwo e).1 ∧ 0 < (powTwo e).2 ∧ ((powTwo e).1 : ℚ) = 2 ^ e * (powTwo e).2 :=
  pow_quotient (by decide) e

theorem powTen_eq (e : Int) :
    0 < (powTen e).1 ∧ 0 < (powTen e).2 ∧ ((powTen e).1 : ℚ) = 10 ^ e * (powTen e).2 :=
  pow_quotient (by decide) e

/-- A logarithm is the exponent of the power below a number that is followed by one above it. -/
theorem log_eq_iff {b : Nat} (hb : 1 < b) {x : ℚ} (hx : 0 < x) {e : Int} :
    Int.log b x = e ↔ (b : ℚ) ^ e ≤ x ∧ x < (b : ℚ) ^ (e + 1) := by
  rw [Int.zpow_le_iff_le_log hb hx, Int.lt_zpow_iff_log_lt hb hx]
  omega

/-! ### Intervals and rounding -/

/-- Lies between two numbers, which count themselves or not. -/
def Between (closed : Bool) (low high x : ℚ) : Prop :=
  if closed then low ≤ x ∧ x ≤ high else low < x ∧ x < high

namespace Between

variable {closed : Bool} {low high x y w : ℚ}

theorem le (h : Between closed low high x) : low ≤ x ∧ x ≤ high := by
  cases closed with
  | true => exact h
  | false => exact ⟨h.1.le, h.2.le⟩

theorem of_lt (hlow : low < x) (hhigh : x < high) : Between closed low high x := by
  cases closed with
  | true => exact ⟨hlow.le, hhigh.le⟩
  | false => exact ⟨hlow, hhigh⟩

/-- With a number, everything from there to an inner number lies in an interval. -/
theorem of_le_of_lt (h : Between closed low high x) (hxy : x ≤ y) (hhigh : y < high) :
    Between closed low high y := by
  cases closed with
  | true => exact ⟨h.1.trans hxy, hhigh.le⟩
  | false => exact ⟨h.1.trans_le hxy, hhigh⟩

theorem of_lt_of_le (h : Between closed low high x) (hlow : low < y) (hyx : y ≤ x) :
    Between closed low high y := by
  cases closed with
  | true => exact ⟨hlow.le, hyx.trans h.2⟩
  | false => exact ⟨hlow, hyx.trans_lt h.2⟩

/-- Intervals may be measured in any unit. -/
theorem mul_iff (hw : 0 < w) : Between closed (low * w) (high * w) (x * w) ↔ Between closed low high x := by
  cases closed with
  | true => exact and_congr (mul_le_mul_iff_left₀ hw) (mul_le_mul_iff_left₀ hw)
  | false => exact and_congr (mul_lt_mul_iff_left₀ hw) (mul_lt_mul_iff_left₀ hw)

end Between

/-- The numbers that round to an integer. -/
def Rounds (x : ℚ) (n : Nat) : Prop :=
  Between (n % 2 = 0) (n - 1 / 2) (n + 1 / 2) x

/-- Of two integers, a number does not round to both. -/
theorem Rounds.not_lt {x : ℚ} {m n : Nat} (hm : Rounds x m) (hn : Rounds x n) : ¬ m < n := by
  intro hlt
  have hstep : (m : ℚ) + 1 ≤ n := by exact_mod_cast hlt
  have hhigh := (Between.le hm).2
  have hlow := (Between.le hn).1
  -- the number can only be the half between two neighbours, one of which is odd
  have hnext : (n : ℚ) = m + 1 := by linarith
  have hhalf : x = m + 1 / 2 := by linarith
  obtain rfl : n = m + 1 := by exact_mod_cast hnext
  unfold Rounds at hm hn
  rcases Nat.mod_two_eq_zero_or_one m with heven | hodd
  · have hother : (m + 1) % 2 ≠ 0 := by omega
    simp only [hother, decide_false, Between, Bool.false_eq_true, if_false] at hn
    linarith [hn.1]
  · have hother : m % 2 ≠ 0 := by omega
    simp only [hother, decide_false, Between, Bool.false_eq_true, if_false] at hm
    linarith [hm.2]

theorem Rounds.unique {x : ℚ} {m n : Nat} (hm : Rounds x m) (hn : Rounds x n) : m = n :=
  Nat.le_antisymm (Nat.le_of_not_lt (hn.not_lt hm)) (Nat.le_of_not_lt (hm.not_lt hn))

/-- No number is rounded past an integer, neither down to below it -/
theorem Rounds.ge {x : ℚ} {k n : Nat} (h : Rounds x n) (hk : (k : ℚ) ≤ x) : k ≤ n := by
  have hhigh := (Between.le h).2
  have hlt : (k : ℚ) < n + 1 := by linarith
  exact Nat.lt_succ_iff.mp (by exact_mod_cast hlt)

/-- nor up to above it. -/
theorem Rounds.le {x : ℚ} {k n : Nat} (h : Rounds x n) (hk : x ≤ k) : n ≤ k := by
  have hlow := (Between.le h).1
  have hlt : (n : ℚ) < k + 1 := by linarith
  exact Nat.lt_succ_iff.mp (by exact_mod_cast hlt)

/-- A half rounds to the even neighbour, whose interval has its ends. -/
theorem rounds_half (q : Nat) : Rounds (q + 1 / 2) (if q % 2 = 0 then q else q + 1) := by
  unfold Rounds
  split
  · rename_i heven
    simp only [heven, decide_true, Between, if_true]
    constructor <;> linarith
  · have hnext : (q + 1) % 2 = 0 := by omega
    simp only [hnext, decide_true, Between, if_true]
    push_cast
    constructor <;> linarith

/-- **The nearest integer to a quotient** is the one to which the quotient rounds. -/
theorem rounds_roundDiv (num : Nat) {den : Nat} (hden : 0 < den) :
    Rounds ((num : ℚ) / den) (roundDiv num den) := by
  have hd : (0 : ℚ) < den := Nat.cast_pos.mpr hden
  have hrest : num % den < den := Nat.mod_lt num hden
  have hsplit : (num : ℚ) = (num / den : Nat) * den + (num % den : Nat) := by
    exact_mod_cast (Nat.div_add_mod' num den).symm
  -- the part that is left, in units of the denominator
  obtain ⟨f, hf⟩ : ∃ f : ℚ, ((num % den : Nat) : ℚ) = f * den :=
    ⟨_, (div_mul_cancel₀ _ hd.ne').symm⟩
  have hquotient : (num : ℚ) / den = (num / den : Nat) + f := by
    rw [div_eq_iff hd.ne', add_mul, ← hf]
    exact hsplit
  rw [hquotient]
  simp only [roundDiv]
  split
  · -- less than half of the denominator is left: the quotient is rounded down
    rename_i hless
    have hcast : (2 : ℚ) * (num % den : Nat) < den := by exact_mod_cast hless
    have hlow : (0 : ℚ) ≤ (num % den : Nat) := Nat.cast_nonneg _
    rw [hf] at hcast hlow
    refine Between.of_lt ?_ ?_ <;> nlinarith
  · split
    · -- more than half: it is rounded up
      rename_i hmore
      have hcast : (den : ℚ) < 2 * (num % den : Nat) := by exact_mod_cast hmore
      have hhigh : ((num % den : Nat) : ℚ) < den := by exact_mod_cast hrest
      rw [hf] at hcast hhigh
      refine Between.of_lt ?_ ?_ <;> push_cast <;> nlinarith
    · -- just half, where the even neighbour decides
      have hcast : (den : ℚ) = 2 * (num % den : Nat) := by
        exact_mod_cast (by omega : den = 2 * (num % den))
      have hhalf : f = 1 / 2 := by
        rw [hf] at hcast
        nlinarith
      rw [hhalf]
      exact rounds_half (num / den)

namespace Binary64

/-! ### Values -/

/-- The powers of two next to a number. -/
theorem log2_bounds {n : Nat} (hn : 0 < n) :
    (2 : ℚ) ^ (n.log2 : Int) ≤ n ∧ (n : ℚ) < 2 ^ ((n.log2 : Int) + 1) := by
  rw [← Nat.cast_succ, zpow_natCast, zpow_natCast]
  constructor
  · exact_mod_cast Nat.log2_self_le (Nat.ne_of_gt hn)
  · exact_mod_cast Nat.lt_log2_self

/-- The logarithms of the parts of a quotient leave two candidates for its own. -/
theorem quotient_bounds {num den : Nat} (hnum : 0 < num) (hden : 0 < den) :
    (2 : ℚ) ^ ((num.log2 : Int) - den.log2 - 1) ≤ num / den ∧
      (num : ℚ) / den < 2 ^ ((num.log2 : Int) - den.log2 + 1) := by
  have hd : (0 : ℚ) < den := Nat.cast_pos.mpr hden
  obtain ⟨hnumlow, hnumhigh⟩ := log2_bounds hnum
  obtain ⟨hdenlow, hdenhigh⟩ := log2_bounds hden
  rw [le_div_iff₀ hd, div_lt_iff₀ hd]
  constructor
  · calc (2 : ℚ) ^ ((num.log2 : Int) - den.log2 - 1) * den
        ≤ 2 ^ ((num.log2 : Int) - den.log2 - 1) * 2 ^ ((den.log2 : Int) + 1) := by gcongr
      _ = 2 ^ (num.log2 : Int) := by
        rw [← zpow_add₀ two_ne_zero]
        congr 1
        omega
      _ ≤ num := hnumlow
  · calc (num : ℚ) < 2 ^ ((num.log2 : Int) + 1) := hnumhigh
      _ = 2 ^ ((num.log2 : Int) - den.log2 + 1) * 2 ^ (den.log2 : Int) := by
        rw [← zpow_add₀ two_ne_zero]
        congr 1
        omega
      _ ≤ 2 ^ ((num.log2 : Int) - den.log2 + 1) * den := by gcongr

/-- **The binary logarithm of a quotient.** -/
theorem floorLog2_eq {num den : Nat} (hnum : 0 < num) (hden : 0 < den) :
    floorLog2 num den = Int.log 2 ((num : ℚ) / den) := by
  have hn : (0 : ℚ) < num := Nat.cast_pos.mpr hnum
  have hd : (0 : ℚ) < den := Nat.cast_pos.mpr hden
  obtain ⟨hlow, hhigh⟩ := quotient_bounds hnum hden
  symm
  rw [log_eq_iff (by decide) (div_pos hn hd), Nat.cast_ofNat]
  simp only [floorLog2]
  generalize (num.log2 : Int) - den.log2 = e at hlow hhigh ⊢
  obtain ⟨hp, hq, hpower⟩ := powTwo_eq e
  -- a comparison decides between the candidates
  have hcompare : num * (powTwo e).2 < den * (powTwo e).1 ↔ (num : ℚ) / den < 2 ^ e := by
    rw [← Nat.cast_lt (α := ℚ), Nat.cast_mul, Nat.cast_mul, hpower, div_lt_iff₀ hd, ← mul_assoc,
      mul_lt_mul_iff_left₀ (Nat.cast_pos.mpr hq), mul_comm (den : ℚ)]
  split
  · rename_i hless
    rw [sub_add_cancel]
    exact ⟨hlow, hcompare.mp hless⟩
  · rename_i hnot
    exact ⟨le_of_not_gt fun hless => hnot (hcompare.mpr hless), hhigh⟩

/-- The form of finite values: the exponent is the least that leaves room for the significand. -/
structure Canonical (significand : Nat) (exponent : Int) : Prop where
  below : significand < 2 ^ 53
  least : minExponent ≤ exponent
  most : exponent ≤ maxExponent
  full : 2 ^ 52 ≤ significand ∨ exponent = minExponent

/-- Above the least exponent the significand is full, so values grow with their exponents. -/
theorem Canonical.le_value {significand : Nat} {exponent e : Int} (h : Canonical significand exponent)
    (he : minExponent < e) (hle : e ≤ exponent) : (2 : ℚ) ^ 52 * 2 ^ e ≤ significand * 2 ^ exponent := by
  have hfull : (2 : ℚ) ^ 52 ≤ significand := by
    exact_mod_cast h.full.resolve_right (he.trans_le hle).ne'
  exact mul_le_mul hfull (zpow_le_zpow_right₀ one_le_two hle) (by positivity) (by positivity)

/-- The exponent at which a number is rounded. -/
def placeOf (x : ℚ) : Int :=
  max (Int.log 2 x - 52) minExponent

/-- A number has at most the bits of a significand before the place at which it is rounded. -/
theorem lt_placeOf (x : ℚ) : x / 2 ^ placeOf x < 2 ^ 53 := by
  have hlog : x < (2 : ℚ) ^ (Int.log 2 x + 1) := by
    simpa only [Nat.cast_ofNat] using Int.lt_zpow_succ_log_self (b := 2) (by decide) x
  have hplace : Int.log 2 x + 1 ≤ 53 + placeOf x := by
    unfold placeOf
    omega
  rw [div_lt_iff₀ (by positivity)]
  calc x < (2 : ℚ) ^ (Int.log 2 x + 1) := hlog
    _ ≤ 2 ^ (53 + placeOf x) := zpow_le_zpow_right₀ one_le_two hplace
    _ = 2 ^ 53 * 2 ^ placeOf x := by
      rw [zpow_add₀ two_ne_zero]
      norm_cast

/-- And that many, unless it is among the smallest numbers. -/
theorem le_placeOf {x : ℚ} (hx : 0 < x) (h : minExponent < placeOf x) : 2 ^ 52 ≤ x / 2 ^ placeOf x := by
  have hlog : (2 : ℚ) ^ Int.log 2 x ≤ x := by
    simpa only [Nat.cast_ofNat] using Int.zpow_log_le_self (b := 2) (by decide) hx
  have hplace : 52 + placeOf x = Int.log 2 x := by
    unfold placeOf at h ⊢
    omega
  rw [le_div_iff₀ (by positivity)]
  calc (2 : ℚ) ^ 52 * 2 ^ placeOf x = 2 ^ (52 + placeOf x) := by
        rw [zpow_add₀ two_ne_zero]
        norm_cast
    _ ≤ x := by rwa [hplace]

/-- **How a quotient is rounded to a value.** The significand that it rounds to at its place may have become
one bit longer. -/
theorem ofRatio_rounds (negative : Bool) {num den : Nat} (hnum : 0 < num) (hden : 0 < den) {x : ℚ}
    (hx : x = (num : ℚ) / den) :
    ∃ n, Rounds (x / 2 ^ placeOf x) n ∧
      (n = 2 ^ 53 → ofRatio negative num den =
        if maxExponent < placeOf x + 1 then infinite negative else finite negative (2 ^ 52) (placeOf x + 1)) ∧
      (n ≠ 2 ^ 53 → ofRatio negative num den =
        if maxExponent < placeOf x then infinite negative else finite negative n (placeOf x)) := by
  have hplace : max (floorLog2 num den - 52) minExponent = placeOf x := by
    rw [floorLog2_eq hnum hden, ← hx]
    rfl
  -- from here on it does not matter which place it is
  generalize placeOf x = place at hplace ⊢
  obtain ⟨hp, hq, hpower⟩ := powTwo_eq place
  have hquotient : x / 2 ^ place = ((num * (powTwo place).2 : Nat) : ℚ) / (den * (powTwo place).1 : Nat) := by
    have hq0 : ((powTwo place).2 : ℚ) ≠ 0 := Nat.cast_ne_zero.mpr (Nat.ne_of_gt hq)
    rw [hx, Nat.cast_mul, Nat.cast_mul, hpower, ← mul_assoc, mul_div_mul_right _ _ hq0, div_div]
  refine ⟨roundDiv (num * (powTwo place).2) (den * (powTwo place).1), ?_, fun hlong => ?_, fun hfits => ?_⟩
  · rw [hquotient]
    exact rounds_roundDiv _ (Nat.mul_pos hden hp)
  · have hlong' : roundDiv (num * (powTwo place).2) (den * (powTwo place).1) = Nat.pow 2 53 := hlong
    simp only [ofRatio, if_neg (Nat.ne_of_gt hnum), hplace, if_pos hlong']
    rfl
  · have hfits' : ¬ roundDiv (num * (powTwo place).2) (den * (powTwo place).1) = Nat.pow 2 53 := hfits
    simp only [ofRatio, if_neg (Nat.ne_of_gt hnum), hplace, if_neg hfits']

/-- Rounding leaves a finite value in canonical form. -/
theorem canonical_ofRatio {negative sign : Bool} {num den significand : Nat} {exponent : Int} (hden : 0 < den)
    (h : ofRatio negative num den = .finite sign significand exponent) : Canonical significand exponent := by
  rcases Nat.eq_zero_or_pos num with rfl | hnum
  · -- zero has the least exponent
    cases h
    exact ⟨by decide, le_rfl, by decide, Or.inr rfl⟩
  · have hx : (0 : ℚ) < num / den := div_pos (Nat.cast_pos.mpr hnum) (Nat.cast_pos.mpr hden)
    have hleast : minExponent ≤ placeOf (num / den) := le_max_right _ _
    obtain ⟨n, hround, hlong, hfits⟩ := ofRatio_rounds negative hnum hden rfl
    by_cases hn : n = 2 ^ 53
    · rw [hlong hn] at h
      split at h
      · cases h
      · -- after a carry the significand is the least full one
        rename_i hmost
        cases h
        exact ⟨by decide, by omega, by omega, Or.inl le_rfl⟩
    · rw [hfits hn] at h
      split at h
      · cases h
      · rename_i hmost
        cases h
        -- rounding passes neither of the two powers between which the number lies at its place
        have hle : significand ≤ 2 ^ 53 := hround.le (by exact_mod_cast (lt_placeOf _).le)
        refine ⟨lt_of_le_of_ne hle hn, hleast, not_lt.mp hmost, ?_⟩
        rcases hleast.eq_or_lt with heq | hlt
        · exact Or.inr heq.symm
        · exact Or.inl (hround.ge (by exact_mod_cast le_placeOf hx hlt))

/-- **Finite values are made in canonical form.** -/
theorem canonical_ofDecimal {negative sign : Bool} {digits significand : Nat} {k exponent : Int}
    (h : ofDecimal negative digits k = .finite sign significand exponent) : Canonical significand exponent := by
  unfold ofDecimal at h
  simp only at h
  split at h
  · cases h
    exact ⟨by decide, le_rfl, by decide, Or.inr rfl⟩
  · split at h
    · cases h
    · exact canonical_ofRatio (powTen_eq k).2.1 h

/-! ### Decimal numbers -/

/-- The number of digits of a number is one more than its logarithm. -/
theorem digitCount_eq {d : Nat} (hd : 0 < d) : digitCount d = Nat.log 10 d + 1 := by
  have hle : ∀ n, 0 < n → (digitCount d ≤ n ↔ d < 10 ^ n) := fun n hn =>
    Nat.length_toDigits_le_iff (by decide) hn
  apply Nat.le_antisymm
  · exact (hle _ (Nat.succ_pos _)).mpr (Nat.lt_pow_succ_log_self (by decide) d)
  · refine Nat.succ_le_of_lt (Nat.lt_of_not_le fun hshort => ?_)
    have hpos : 0 < digitCount d := Nat.length_toDigits_pos
    have hlt := (hle _ (hpos.trans_le hshort)).mp hshort
    exact absurd (Nat.pow_log_le_self 10 (Nat.ne_of_gt hd)) (Nat.not_le.mpr hlt)

/-- The logarithm of a decimal number is the exponent of its first digit. -/
theorem log_decimal {d : Nat} (hd : 0 < d) (k : Int) :
    Int.log 10 ((d : ℚ) * 10 ^ k) = k + digitCount d - 1 := by
  have hpos : (0 : ℚ) < d := Nat.cast_pos.mpr hd
  have hten : (0 : ℚ) < 10 ^ k := by positivity
  -- the digits of the integer, moved by the exponent
  have hlog : k + (digitCount d : Int) - 1 = Nat.log 10 d + k := by
    rw [digitCount_eq hd]
    push_cast
    omega
  rw [hlog, log_eq_iff (by decide) (by positivity), Nat.cast_ofNat]
  have hnext : (Nat.log 10 d : Int) + k + 1 = ((Nat.log 10 d + 1 : Nat) : Int) + k := by
    push_cast
    omega
  rw [hnext, zpow_add₀ (by norm_num), zpow_add₀ (by norm_num), zpow_natCast, zpow_natCast,
    mul_le_mul_iff_left₀ hten, mul_lt_mul_iff_left₀ hten]
  constructor
  · exact_mod_cast Nat.pow_log_le_self 10 (Nat.ne_of_gt hd)
  · exact_mod_cast Nat.lt_pow_succ_log_self (by decide) d

end Binary64

end RuleText
