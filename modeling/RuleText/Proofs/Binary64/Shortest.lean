import Mathlib.Algebra.Order.Floor.Semifield
import RuleText.Proofs.Binary64.Interval

/-!
# What the shortest decimal number is

On the grid of the multiples of a power of ten, a value lies between two neighbours. The interval around it is in
one piece and holds the value, so if it holds any multiple at all it holds one of the neighbours. A search that
begins with the power of the leading digit and goes on to finer grids thus ends on the coarsest grid of which
the interval holds a multiple. It does end: the multiples of the seventeenth digit lie closer together than the
interval is long.

The power of ten of the leading digit is itself on all of these grids, and so is the next one. So the number
that is found has its leading digit in the same place as the value, unless it is the next power of ten
(`log_shortest`). And a number of one digit in the interval is a multiple of that power, or else the power
itself lies between it and the value, so the search ends with one digit if it can (`shortest_oneDigit_iff`).

An integer of up to sixteen digits is on the grid of the integers, which is therefore not passed, and is found
to be itself.

Main definitions:

- `Interval.center`: the value in the middle of an interval;
- `Decimal.value`: the number that digits stand for.

Main statements:

- `Interval.leadingExponent_eq`: the exponent of the leading digit is the decimal logarithm;
- `shortest_spec`: the search ends on the coarsest grid of which the interval holds a multiple;
- `shortest_reads`: what is found reads as the value;
- `log_shortest`: the leading digit of what is found;
- `shortest_oneDigit_iff`: when one digit is found;
- `shortest_of_integer`: what is found for an integer.
-/

namespace RuleText

namespace Interval

variable (i : Interval) (tie : TieRule) (k : Int)

/-- The value in the middle of an interval. -/
def center : ℚ :=
  i.value * 2 ^ i.unit

/-! ### Grids -/

/-- The neighbour on the grid of `10 ^ k` that is not above the value. -/
def neighbour : Nat :=
  i.value * (i.scales k).1 / (i.scales k).2

/-- The value lies between its neighbours. -/
theorem neighbour_le :
    (i.neighbour k : ℚ) * 10 ^ k ≤ i.center ∧ i.center < (i.neighbour k + 1) * 10 ^ k := by
  obtain ⟨hb, w, hw, hunit, hten⟩ := i.scales_eq k
  unfold center
  rw [← hunit, ← hten, ← mul_assoc, ← mul_assoc, ← mul_assoc, mul_le_mul_iff_left₀ hw,
    mul_lt_mul_iff_left₀ hw]
  constructor
  · exact_mod_cast Nat.div_mul_le_self _ _
  · exact_mod_cast (Nat.div_lt_iff_lt_mul hb).mp (Nat.lt_succ_self _)

/-- What a grid gives: one of the neighbours if one is in the interval, and else nothing. -/
theorem onGrid?_cases :
    (i.onGrid? tie k = none ∧ ¬ i.Mem (i.neighbour k * 10 ^ k) ∧
        ¬ i.Mem ((i.neighbour k + 1 : Nat) * 10 ^ k)) ∨
      ∃ n, i.onGrid? tie k = some n ∧ i.Mem (n * 10 ^ k) ∧
        (n = i.neighbour k ∨ n = i.neighbour k + 1) := by
  rw [← i.holds_iff, ← i.holds_iff]
  -- four cases, by which of the two neighbours lie in the interval
  cases hdown : i.holds (i.scales k).1 (i.scales k).2 (i.neighbour k) with
  | false =>
    cases hup : i.holds (i.scales k).1 (i.scales k).2 (i.neighbour k + 1) with
    | false =>
      left
      refine ⟨?_, Bool.false_ne_true, Bool.false_ne_true⟩
      unfold neighbour at hdown hup
      simp only [onGrid?, hdown, hup]
    | true =>
      right
      refine ⟨i.neighbour k + 1, ?_, (i.holds_iff k _).mp hup, Or.inr rfl⟩
      unfold neighbour at hdown hup ⊢
      simp only [onGrid?, hdown, hup]
  | true =>
    cases hup : i.holds (i.scales k).1 (i.scales k).2 (i.neighbour k + 1) with
    | false =>
      right
      refine ⟨i.neighbour k, ?_, (i.holds_iff k _).mp hdown, Or.inl rfl⟩
      unfold neighbour at hdown hup ⊢
      simp only [onGrid?, hdown, hup]
    | true =>
      -- with both in the interval, the distance or the rule for ties chooses one
      right
      have hchoice : i.onGrid? tie k = some (i.neighbour k) ∨ i.onGrid? tie k = some (i.neighbour k + 1) := by
        unfold neighbour at hdown hup ⊢
        simp only [onGrid?, hdown, hup]
        split
        · exact Or.inl rfl
        · split
          · exact Or.inr rfl
          · cases tie with
            | up => exact Or.inr rfl
            | even => exact (ite_eq_or_eq _ _ _)
      rcases hchoice with hchoice | hchoice
      · exact ⟨_, hchoice, (i.holds_iff k _).mp hdown, Or.inl rfl⟩
      · exact ⟨_, hchoice, (i.holds_iff k _).mp hup, Or.inr rfl⟩

variable {i tie k}

/-- What is found on a grid is a neighbour of the value, and in the interval. -/
theorem mem_of_onGrid? {n : Nat} (h : i.onGrid? tie k = some n) :
    i.Mem (n * 10 ^ k) ∧ (n = i.neighbour k ∨ n = i.neighbour k + 1) := by
  rcases i.onGrid?_cases tie k with ⟨hnone, -⟩ | ⟨other, hsome, hother⟩
  · cases h.symm.trans hnone
  · obtain rfl : n = other := Option.some.inj (h.symm.trans hsome)
    exact hother

/-- A value on the grid is found itself, since its neighbour is further away. -/
theorem onGrid?_of_eq {n : Nat} (hmem : i.Mem i.center) (h : i.center = n * 10 ^ k) :
    i.onGrid? tie k = some n := by
  obtain ⟨hb, w, hw, hunit, hten⟩ := i.scales_eq k
  have hexact : i.value * (i.scales k).1 = n * (i.scales k).2 := by
    have hscaled : (i.value : ℚ) * (i.scales k).1 * w = n * (i.scales k).2 * w := by
      rw [mul_assoc, mul_assoc, hunit, hten]
      exact h
    exact_mod_cast mul_right_cancel₀ hw.ne' hscaled
  have hneighbour : i.value * (i.scales k).1 / (i.scales k).2 = n := by
    rw [hexact, Nat.mul_div_cancel _ hb]
  have hdown : i.holds (i.scales k).1 (i.scales k).2 n = true := by
    rw [i.holds_iff, ← h]
    exact hmem
  have hcloser : i.value * (i.scales k).1 - n * (i.scales k).2 <
      (n + 1) * (i.scales k).2 - i.value * (i.scales k).1 := by
    rw [hexact, Nat.sub_self, ← Nat.sub_mul, Nat.add_sub_cancel_left, Nat.one_mul]
    exact hb
  simp only [onGrid?, hneighbour, hdown]
  cases i.holds (i.scales k).1 (i.scales k).2 (n + 1) with
  | false => rfl
  | true => exact if_pos hcloser

/-- **The exponent of the leading digit is the decimal logarithm.** -/
theorem leadingExponent_eq (hvalue : 0 < i.value) : i.leadingExponent = Int.log 10 i.center := by
  obtain ⟨hp, hq, hunit⟩ := powTwo_eq i.unit
  have hnum : 0 < i.value * (powTwo i.unit).1 := Nat.mul_pos hvalue hp
  have hq' : (0 : ℚ) < (powTwo i.unit).2 := Nat.cast_pos.mpr hq
  have hnum' : (0 : ℚ) < (i.value * (powTwo i.unit).1 : Nat) := Nat.cast_pos.mpr hnum
  -- the centre is a quotient of natural numbers, on whose size the search for the digit depends
  have hcenter : i.center = ((i.value * (powTwo i.unit).1 : Nat) : ℚ) / (powTwo i.unit).2 := by
    rw [eq_div_iff hq'.ne', Nat.cast_mul, hunit, ← mul_assoc]
    rfl
  rw [hcenter]
  simp only [leadingExponent]
  generalize i.value * (powTwo i.unit).1 = num at hnum hnum' ⊢
  generalize (powTwo i.unit).2 = den at hq hq' ⊢
  split
  · -- from one on, the logarithm is that of the integer part
    rename_i hle
    have hone : (1 : ℚ) ≤ num / den := (one_le_div hq').mpr (by exact_mod_cast hle)
    rw [Int.log_of_one_le_right 10 hone, Nat.floor_div_eq_div, Binary64.digitCount_eq (Nat.div_pos hle hq)]
    push_cast
    exact Int.add_sub_cancel _ _
  · rename_i hlt
    have hpos : 0 < den / num := Nat.div_pos (Nat.le_of_not_le hlt) hnum
    have hten : (0 : ℚ) < 10 ^ Nat.log 10 (den / num) := by positivity
    -- the quotient upside down has the digits of an integer
    have hlow : (10 : ℚ) ^ Nat.log 10 (den / num) * num ≤ den := by
      exact_mod_cast (Nat.le_div_iff_mul_le hnum).mp (Nat.pow_log_le_self 10 (Nat.ne_of_gt hpos))
    have hhigh : (den : ℚ) < 10 ^ (Nat.log 10 (den / num) + 1) * num := by
      exact_mod_cast (Nat.div_lt_iff_lt_mul hnum).mp (Nat.lt_pow_succ_log_self (by decide) _)
    rw [Binary64.digitCount_eq hpos, Nat.add_sub_cancel]
    generalize Nat.log 10 (den / num) = places at hten hlow hhigh ⊢
    symm
    split
    · -- a power of ten on its own is the leading digit of its place
      rename_i hexact
      have hcast : (num : ℚ) * 10 ^ places = den := by exact_mod_cast hexact
      rw [log_eq_iff (by decide) (by positivity), Nat.cast_ofNat]
      have hexponent : -(((places + 1 : Nat) : Int) - 1) = -(places : Int) := by
        push_cast
        omega
      rw [hexponent, zpow_add_one₀ (by norm_num), zpow_neg, zpow_natCast, le_div_iff₀ hq', div_lt_iff₀ hq',
        ← hcast]
      constructor
      · field_simp
        exact le_rfl
      · field_simp
        linarith
    · -- and otherwise the quotient lies between two of them
      rename_i hnot
      have hless : (10 : ℚ) ^ places * num < den := by
        refine lt_of_le_of_ne hlow fun heq => hnot ?_
        have hnat : 10 ^ places * num = den := by exact_mod_cast heq
        rw [Nat.mul_comm]
        exact hnat
      rw [log_eq_iff (by decide) (by positivity), Nat.cast_ofNat]
      have hnext : -((places + 1 : Nat) : Int) + 1 = -(places : Int) := by
        push_cast
        omega
      rw [hnext, zpow_neg, zpow_neg, zpow_natCast, zpow_natCast, le_div_iff₀ hq', div_lt_iff₀ hq']
      constructor
      · rw [inv_mul_le_iff₀ (by positivity)]
        exact hhigh.le
      · rw [lt_inv_mul_iff₀ hten]
        exact hless

/-- An interval in one piece around a value that it holds. -/
structure Surrounds (i : Interval) : Prop where
  low : i.low * 2 ^ i.unit < i.center
  high : i.center < i.high * 2 ^ i.unit

section Surrounds

variable (hi : i.Surrounds)

include hi

theorem Surrounds.center_mem : i.Mem i.center :=
  Between.of_lt hi.low hi.high

/-- If an interval holds any multiple, something is found on the grid. -/
theorem onGrid?_ne_none {m : Nat} (h : i.Mem (m * 10 ^ k)) : i.onGrid? tie k ≠ none := by
  intro hnone
  have hten : (0 : ℚ) < 10 ^ k := by positivity
  obtain ⟨hle, hlt⟩ := i.neighbour_le k
  rcases i.onGrid?_cases tie k with ⟨-, hdown, hup⟩ | ⟨n, hsome, -⟩
  · rcases Nat.lt_or_ge (i.neighbour k) m with hm | hm
    · -- from above, the upper neighbour is passed on the way to the value
      have hcast : ((i.neighbour k + 1 : Nat) : ℚ) ≤ m := by exact_mod_cast hm
      refine hup (h.of_lt_of_le (hi.low.trans ?_) (mul_le_mul_of_nonneg_right hcast hten.le))
      push_cast
      exact hlt
    · have hcast : (m : ℚ) ≤ i.neighbour k := by exact_mod_cast hm
      exact hdown (h.of_le_of_lt (mul_le_mul_of_nonneg_right hcast hten.le) (hle.trans_lt hi.high))
  · cases hnone.symm.trans hsome

/-- Nothing is found only on grids that are no finer than the interval is long. -/
theorem length_le_of_onGrid?_eq_none (h : i.onGrid? tie k = none) :
    (i.high : ℚ) * 2 ^ i.unit - i.low * 2 ^ i.unit ≤ 10 ^ k := by
  obtain ⟨hle, hlt⟩ := i.neighbour_le k
  rcases i.onGrid?_cases tie k with ⟨-, hdown, hup⟩ | ⟨n, hsome, -⟩
  · -- both neighbours lie outside, so the whole interval lies between them
    have hlow : (i.neighbour k : ℚ) * 10 ^ k ≤ i.low * 2 ^ i.unit :=
      le_of_not_gt fun hgt => hdown (Between.of_lt hgt (hle.trans_lt hi.high))
    have hhigh : i.high * 2 ^ i.unit ≤ ((i.neighbour k + 1 : Nat) : ℚ) * 10 ^ k := by
      refine le_of_not_gt fun hgt => hup (Between.of_lt (hi.low.trans ?_) hgt)
      push_cast
      exact hlt
    push_cast at hhigh
    linarith
  · cases h.symm.trans hsome

end Surrounds

/-! ### The interval around a value -/

variable {significand : Nat} {exponent : Int}

theorem center_around : (around significand exponent).center = significand * 2 ^ exponent := by
  show ((4 * significand : Nat) : ℚ) * 2 ^ (around significand exponent).unit = _
  rw [unit_around]
  push_cast
  ring

theorem center_pos (hs : 0 < significand) (exponent : Int) : 0 < (around significand exponent).center := by
  have hcast : (0 : ℚ) < significand := Nat.cast_pos.mpr hs
  rw [center_around]
  positivity

/-- The powers of ten next to a value. -/
theorem log_center (hs : 0 < significand) (exponent : Int) :
    10 ^ Int.log 10 (around significand exponent).center ≤ (around significand exponent).center ∧
      (around significand exponent).center < 10 ^ (Int.log 10 (around significand exponent).center + 1) := by
  have hlog := (log_eq_iff (b := 10) (by decide) (center_pos hs exponent)).mp rfl
  rwa [Nat.cast_ofNat] at hlog

theorem surrounds_around (hs : 0 < significand) (exponent : Int) : (around significand exponent).Surrounds := by
  have hpos : (0 : ℚ) < 2 ^ exponent := by positivity
  have hhalf : 0 < halfBelow significand exponent := halfBelow_pos
  constructor
  · rw [center_around, low_around hs]
    exact mul_lt_mul_of_pos_right (by linarith) hpos
  · rw [center_around, high_around]
    exact mul_lt_mul_of_pos_right (by linarith) hpos

/-- The interval is longer than the distance of two multiples of the seventeenth digit. -/
theorem seventeen_digits (h : Binary64.Canonical significand exponent) (hs : 0 < significand) (tie : TieRule) :
    (around significand exponent).onGrid? tie (Int.log 10 (around significand exponent).center - 16) ≠ none := by
  intro hnone
  have hpos : (0 : ℚ) < 2 ^ exponent := by positivity
  have hbelow : (significand : ℚ) < 2 ^ 53 := by exact_mod_cast h.below
  have hlength := length_le_of_onGrid?_eq_none (surrounds_around hs exponent) hnone
  have hdigit := (log_center hs exponent).1
  have hgrid : (10 : ℚ) ^ (Int.log 10 (around significand exponent).center - 16) * 10 ^ 16 ≤
      significand * 2 ^ exponent := by
    rw [← center_around]
    refine le_trans (le_of_eq ?_) hdigit
    rw [← zpow_ofNat, ← zpow_add₀ (by norm_num), sub_add_cancel]
  -- all in units of the last place
  have hplaces : ((1 : ℚ) / 2 + halfBelow significand exponent) * 10 ^ 16 ≤ significand := by
    refine le_of_mul_le_mul_right (le_trans ?_ hgrid) hpos
    rw [low_around hs, high_around] at hlength
    linarith
  unfold halfBelow at hplaces
  split at hplaces
  · rename_i hpower
    rw [hpower.1] at hplaces
    norm_num at hplaces
  · linarith

end Interval

/-! ### The search -/

/-- The number that digits stand for. -/
def Decimal.value (d : Decimal) : ℚ :=
  d.digits * 10 ^ d.exponent

section dropZeros

variable (fuel : Nat) (d : Decimal)

theorem value_dropZeros : (dropZeros fuel d).value = d.value := by
  induction fuel generalizing d with
  | zero => rfl
  | succ fuel ih =>
    unfold dropZeros
    split
    · rename_i hzero
      rw [ih]
      have hdigits : ((d.digits / 10 : Nat) : ℚ) * 10 = d.digits := by
        exact_mod_cast Nat.div_mul_cancel (Nat.dvd_of_mod_eq_zero hzero.2)
      unfold Decimal.value
      rw [zpow_add_one₀ (by norm_num), ← hdigits]
      ring
    · rfl

theorem exponent_le_dropZeros : d.exponent ≤ (dropZeros fuel d).exponent := by
  induction fuel generalizing d with
  | zero => exact le_rfl
  | succ fuel ih =>
    unfold dropZeros
    split
    · exact (Int.le_add_one le_rfl).trans (ih _)
    · exact le_rfl

theorem dropZeros_digits_le : (dropZeros fuel d).digits ≤ d.digits := by
  induction fuel generalizing d with
  | zero => exact le_rfl
  | succ fuel ih =>
    unfold dropZeros
    split
    · exact (ih _).trans (Nat.div_le_self _ _)
    · exact le_rfl

/-- Without the zero, ten has one digit. -/
theorem dropZeros_digits_lt (h : d.digits ≤ 10) : (dropZeros (fuel + 1) d).digits < 10 := by
  unfold dropZeros
  split
  · exact (dropZeros_digits_le _ _).trans_lt (show d.digits / 10 < 10 by omega)
  · omega

end dropZeros

/-- The search finds the first grid that has a number in the interval, if there is one in its reach. -/
theorem shortestFrom_spec (tie : TieRule) (i : Interval) (leading : Int) (fuel count : Nat)
    (hex : ∃ j, count ≤ j ∧ j < count + fuel ∧ i.onGrid? tie (leading - j + 1) ≠ none) :
    ∃ j n, count ≤ j ∧ j < count + fuel ∧ i.onGrid? tie (leading - j + 1) = some n ∧
      (∀ m, count ≤ m → m < j → i.onGrid? tie (leading - m + 1) = none) ∧
      shortestFrom tie i leading fuel count = dropZeros 17 ⟨n, leading - j + 1⟩ := by
  induction fuel generalizing count with
  | zero =>
    obtain ⟨j, hlow, hhigh, -⟩ := hex
    omega
  | succ fuel ih =>
    simp only [shortestFrom]
    cases hgrid : i.onGrid? tie (leading - count + 1) with
    | some n =>
      exact ⟨count, n, le_rfl, by omega, hgrid, fun m hlow hhigh => absurd hlow (Nat.not_le.mpr hhigh), rfl⟩
    | none =>
      obtain ⟨j, hlow, hhigh, hsome⟩ := hex
      -- the grid that is in reach is not the first one, so it is in reach of the rest of the search
      have hne : j ≠ count := by
        rintro rfl
        exact hsome hgrid
      obtain ⟨j, n, hlow, hhigh, hsome, hbefore, heq⟩ := ih (count + 1) ⟨j, by omega, by omega, hsome⟩
      refine ⟨j, n, by omega, by omega, hsome, fun m hm hmj => ?_, heq⟩
      rcases Nat.eq_or_lt_of_le hm with rfl | hm
      · exact hgrid
      · exact hbefore m hm hmj

section shortest

open RuleText.Interval

variable {significand : Nat} {exponent : Int} (h : Binary64.Canonical significand exponent)
  (hs : 0 < significand) (tie : TieRule)

include h hs

/-- **The search ends on the coarsest grid of which the interval holds a multiple**, from the grid of the
leading digit on. -/
theorem shortest_spec :
    ∃ (k : Int) (n : Nat), k ≤ Int.log 10 (around significand exponent).center ∧
      (around significand exponent).onGrid? tie k = some n ∧
      (∀ coarser, k < coarser → coarser ≤ Int.log 10 (around significand exponent).center →
        (around significand exponent).onGrid? tie coarser = none) ∧
      shortest tie significand exponent = dropZeros 17 ⟨n, k⟩ := by
  have hvalue : 0 < (around significand exponent).value := Nat.mul_pos (by decide) hs
  have hleading := leadingExponent_eq hvalue
  have hlast : (around significand exponent).onGrid? tie
      ((around significand exponent).leadingExponent - (17 : Nat) + 1) ≠ none := by
    rw [hleading]
    have hgrid : Int.log 10 (around significand exponent).center - ((17 : Nat) : Int) + 1 =
        Int.log 10 (around significand exponent).center - 16 := by
      omega
    rw [hgrid]
    exact seventeen_digits h hs tie
  obtain ⟨j, n, hlow, -, hsome, hbefore, heq⟩ :=
    shortestFrom_spec tie (around significand exponent) _ 17 1 ⟨17, by decide, by decide, hlast⟩
  rw [hleading] at hsome hbefore heq
  refine ⟨_, n, by omega, hsome, fun coarser hfiner hleast => ?_, ?_⟩
  · -- a coarser grid has been tried with fewer digits
    have hgrid : coarser = Int.log 10 (around significand exponent).center -
        ((Int.log 10 (around significand exponent).center - coarser + 1).toNat : Int) + 1 := by
      omega
    rw [hgrid]
    exact hbefore _ (by omega) (by omega)
  · rw [← heq]
    simp only [shortest, if_neg (Nat.ne_of_gt hs), hleading]

theorem shortest_mem : (around significand exponent).Mem (shortest tie significand exponent).value := by
  obtain ⟨k, n, -, hsome, -, heq⟩ := shortest_spec h hs tie
  rw [heq, value_dropZeros]
  exact (mem_of_onGrid? hsome).1

theorem shortest_digits_pos : 0 < (shortest tie significand exponent).digits := by
  have hlow := (Binary64.bounds_of_mem h hs (shortest_mem h hs tie)).1
  refine Nat.pos_of_ne_zero fun hzero => ?_
  unfold Decimal.value at hlow
  rw [hzero, Nat.cast_zero, zero_mul] at hlow
  exact absurd hlow (not_le.mpr (by positivity))

/-- **What is found reads as the value.** -/
theorem shortest_reads (negative : Bool) :
    Binary64.ofDecimal negative (shortest tie significand exponent).digits
      (shortest tie significand exponent).exponent = .finite negative significand exponent :=
  (Binary64.ofDecimal_eq_iff negative h hs _ _).mpr (shortest_mem h hs tie)

/-- **The leading digit of what is found** is that of the value, or what is found is the next power of ten. -/
theorem log_shortest :
    Int.log 10 (shortest tie significand exponent).value = Int.log 10 (around significand exponent).center ∨
      (shortest tie significand exponent).value = 10 ^ (Int.log 10 (around significand exponent).center + 1) := by
  -- the number is a multiple of a power of ten, and next to the centre on this grid
  obtain ⟨k, n, hk, hsome, -, heq⟩ := shortest_spec h hs tie
  obtain ⟨-, hn⟩ := mem_of_onGrid? hsome
  obtain ⟨hle, hlt⟩ := (around significand exponent).neighbour_le k
  have hten : (0 : ℚ) < 10 ^ k := by positivity
  obtain ⟨hlow, hhigh⟩ := log_center hs exponent
  rw [heq, value_dropZeros]
  generalize Int.log 10 (around significand exponent).center = leading at hk hlow hhigh ⊢
  -- the grid is no coarser than the leading digit
  obtain ⟨j, rfl⟩ : ∃ j : Nat, leading = j + k := ⟨(leading - k).toNat, by omega⟩
  -- both powers are on the grid, so the neighbours do not pass them
  have hnext : (j : Int) + k + 1 = ((j + 1 : Nat) : Int) + k := by
    push_cast
    omega
  rw [hnext] at hhigh ⊢
  have hpow : ∀ m : Nat, (10 : ℚ) ^ ((m : Int) + k) = ((10 ^ m : Nat) : ℚ) * 10 ^ k := fun m => by
    rw [zpow_add₀ (by norm_num), zpow_natCast, Nat.cast_pow, Nat.cast_ofNat]
  rw [hpow] at hlow hhigh
  have hfirst : 10 ^ j < (around significand exponent).neighbour k + 1 := by
    have hcast := lt_of_mul_lt_mul_right (hlow.trans_lt hlt) hten.le
    exact_mod_cast hcast
  have hlast : (around significand exponent).neighbour k < 10 ^ (j + 1) := by
    have hcast := lt_of_mul_lt_mul_right (hle.trans_lt hhigh) hten.le
    exact_mod_cast hcast
  have hbounds : 10 ^ j ≤ n ∧ n ≤ 10 ^ (j + 1) := by omega
  have hvalue : (⟨n, k⟩ : Decimal).value = n * 10 ^ k := rfl
  rw [hvalue]
  -- it reaches the upper one if it is rounded up to it
  rcases Nat.eq_or_lt_of_le hbounds.2 with rfl | hless
  · right
    exact (hpow (j + 1)).symm
  · left
    have hpos : (0 : ℚ) < n := Nat.cast_pos.mpr ((Nat.pow_pos (by decide)).trans_le hbounds.1)
    rw [log_eq_iff (by decide) (by positivity), Nat.cast_ofNat, hnext, hpow, hpow]
    constructor
    · refine mul_le_mul_of_nonneg_right ?_ hten.le
      exact_mod_cast hbounds.1
    · refine mul_lt_mul_of_pos_right ?_ hten
      exact_mod_cast hless

/-- So powers of ten may be compared with the value in place of what is found, except if the interval goes up to
them. -/
theorem log_shortest_lt_iff (bound : Int)
    (hgap : (around significand exponent).center < 10 ^ bound →
      ¬ (around significand exponent).Mem (10 ^ bound)) :
    Int.log 10 (shortest tie significand exponent).value < bound ↔
      (around significand exponent).center < 10 ^ bound := by
  have hcenter := Int.lt_zpow_iff_log_lt (b := 10) (by decide) (x := bound) (center_pos hs exponent)
  rw [Nat.cast_ofNat] at hcenter
  rcases log_shortest h hs tie with hlog | hnext
  · rw [hlog, hcenter]
  · have hlog : Int.log 10 (shortest tie significand exponent).value =
        Int.log 10 (around significand exponent).center + 1 := by
      rw [hnext]
      exact_mod_cast Int.log_zpow (R := ℚ) (b := 10) (by decide) _
    rw [hlog]
    constructor
    · intro hlt
      exact hcenter.mpr (by omega)
    · intro hlt
      have hne : Int.log 10 (around significand exponent).center + 1 ≠ bound := by
        rintro rfl
        exact hgap hlt (hnext ▸ shortest_mem h hs tie)
      have hle := hcenter.mp hlt
      omega

/-- **One digit is found** exactly if some number of one digit lies in the interval. -/
theorem shortest_oneDigit_iff :
    (shortest tie significand exponent).digits < 10 ↔
      ∃ (digit : Nat) (k : Int), digit < 10 ∧ (around significand exponent).Mem (digit * 10 ^ k) := by
  constructor
  · intro hdigit
    exact ⟨_, _, hdigit, shortest_mem h hs tie⟩
  · rintro ⟨digit, k, hdigit, hmem⟩
    have hi := surrounds_around hs exponent
    obtain ⟨hlow, hhigh⟩ := log_center hs exponent
    obtain ⟨leading, n, hk, hsome, hbefore, heq⟩ := shortest_spec h hs tie
    generalize hlog : Int.log 10 (around significand exponent).center = first at hlow hhigh hk hbefore
    -- the interval holds a multiple of the power of the leading digit
    have hmultiple : ∃ m : Nat, (around significand exponent).Mem (m * 10 ^ first) := by
      rcases le_or_gt first k with hfirst | hfirst
      · obtain ⟨j, rfl⟩ : ∃ j : Nat, k = j + first := ⟨(k - first).toNat, by omega⟩
        refine ⟨digit * 10 ^ j, ?_⟩
        rw [zpow_add₀ (by norm_num), zpow_natCast, ← mul_assoc] at hmem
        exact_mod_cast hmem
      · refine ⟨1, hmem.of_le_of_lt ?_ ?_⟩
        · -- a smaller number of one digit is below that power
          have hten : (digit : ℚ) ≤ 10 := by exact_mod_cast hdigit.le
          rw [Nat.cast_one, one_mul]
          calc (digit : ℚ) * 10 ^ k ≤ 10 * 10 ^ k := mul_le_mul_of_nonneg_right hten (by positivity)
            _ = 10 ^ (k + 1) := by
                rw [zpow_add_one₀ (by norm_num), mul_comm]
            _ ≤ 10 ^ first := zpow_le_zpow_right₀ (by norm_num) hfirst
        · rw [Nat.cast_one, one_mul]
          exact hlow.trans_lt hi.high
    obtain ⟨m, hm⟩ := hmultiple
    have hgrid : leading = first := by
      refine le_antisymm hk (le_of_not_gt fun hless => ?_)
      exact onGrid?_ne_none hi hm (hbefore first hless le_rfl)
    subst hgrid
    -- there the neighbours have one digit, or the upper one is ten
    obtain ⟨hle, -⟩ := (around significand exponent).neighbour_le leading
    obtain ⟨-, hn⟩ := mem_of_onGrid? hsome
    have hneighbour : (around significand exponent).neighbour leading < 10 := by
      have hlt := hle.trans_lt hhigh
      rw [zpow_add_one₀ (by norm_num), mul_comm] at hlt
      exact_mod_cast lt_of_mul_lt_mul_left hlt (by positivity)
    rw [heq]
    exact dropZeros_digits_lt 16 _ (show n ≤ 10 by omega)

omit hs in
/-- Values of up to sixteen digits before the point have a last place of at most two. -/
theorem exponent_le_of_lt (hlt : (significand : ℚ) * 2 ^ exponent < 10 ^ 16) : exponent ≤ 1 := by
  refine Int.le_of_not_gt fun hexponent => ?_
  have hlow := h.le_value (e := 2) (by decide) hexponent
  norm_num at hlow hlt
  linarith

omit h in
/-- An integer in the interval around another one is that one, if it is even where the last place is two. -/
theorem eq_of_mem_around {n m : Nat} (hinteger : (significand : ℚ) * 2 ^ exponent = n)
    (hexponent : exponent ≤ 1)
    (heven : exponent = 1 → m % 2 = 0) (hmem : (around significand exponent).Mem m) : m = n := by
  have hpos : (0 : ℚ) < 2 ^ exponent := by positivity
  obtain ⟨hlow, hhigh⟩ := ((mem_around_iff hs).mp hmem).le
  have hhalf : halfBelow significand exponent ≤ 1 / 2 := halfBelow_le
  rw [div_le_iff₀ hpos, add_mul, hinteger] at hhigh
  have hlow' : (n : ℚ) - 1 / 2 * 2 ^ exponent ≤ m := by
    rw [← hinteger, ← sub_mul]
    exact (le_div_iff₀ hpos).mp (by linarith)
  rcases Int.lt_or_eq_of_le hexponent with hsmall | rfl
  · -- half of the last place is less than the distance of two integers
    have hone : (2 : ℚ) ^ exponent ≤ 1 := zpow_le_one_of_nonpos₀ one_le_two (Int.lt_add_one_iff.mp hsmall)
    have hle : (m : ℚ) < n + 1 := by linarith
    have hge : (n : ℚ) < m + 1 := by linarith
    have hle' : m < n + 1 := by exact_mod_cast hle
    have hge' : n < m + 1 := by exact_mod_cast hge
    omega
  · -- and otherwise less than that of two even ones
    rw [zpow_one] at hinteger hhigh hlow'
    have hn : significand * 2 = n := by exact_mod_cast hinteger
    have hm := heven rfl
    have hle : (m : ℚ) ≤ n + 1 := by linarith
    have hge : (n : ℚ) ≤ m + 1 := by linarith
    have hle' : m ≤ n + 1 := by exact_mod_cast hle
    have hge' : n ≤ m + 1 := by exact_mod_cast hge
    omega

/-- **What is found for an integer** of up to sixteen digits is the integer. -/
theorem shortest_of_integer {n : Nat} (hinteger : (significand : ℚ) * 2 ^ exponent = n) (hn : n < 10 ^ 16) :
    (shortest tie significand exponent).value = n ∧ 0 ≤ (shortest tie significand exponent).exponent := by
  have hcenter : (around significand exponent).center = n := center_around.trans hinteger
  have hlt : (significand : ℚ) * 2 ^ exponent < 10 ^ 16 := by
    rw [hinteger]
    exact_mod_cast hn
  -- the search comes to the grid of the integers at the latest
  have hself : (around significand exponent).onGrid? tie 0 = some n := by
    refine onGrid?_of_eq (surrounds_around hs exponent).center_mem ?_
    rw [hcenter, zpow_zero, mul_one]
  have hone : 0 ≤ Int.log 10 (around significand exponent).center := by
    rw [← Int.zpow_le_iff_le_log (by decide) (center_pos hs exponent), zpow_zero, hcenter]
    have hpos : (0 : ℚ) < n := hcenter ▸ center_pos hs exponent
    exact_mod_cast hpos
  obtain ⟨k, m, hk, hsome, hbefore, heq⟩ := shortest_spec h hs tie
  have hgrid : 0 ≤ k := by
    refine le_of_not_gt fun hless => ?_
    cases hself.symm.trans (hbefore 0 hless hone)
  rw [heq, value_dropZeros]
  refine ⟨?_, hgrid.trans (exponent_le_dropZeros 17 ⟨m, k⟩)⟩
  show (m : ℚ) * 10 ^ k = n
  obtain ⟨j, rfl⟩ := Int.eq_ofNat_of_zero_le hgrid
  rw [zpow_natCast]
  -- on the grid of the integers it is the value itself
  rcases Nat.eq_zero_or_pos j with rfl | hj
  · obtain rfl : n = m := Option.some.inj (hself.symm.trans hsome)
    rw [pow_zero, mul_one]
  · -- what is found on a coarser grid is an even integer in the interval
    obtain ⟨hmem, -⟩ := mem_of_onGrid? hsome
    rw [zpow_natCast] at hmem
    have hpower : 10 ∣ 10 ^ j := dvd_pow_self 10 (Nat.ne_of_gt hj)
    have hten : 2 ∣ m * 10 ^ j := (Dvd.dvd.trans (by decide) hpower).mul_left m
    have hsame : m * 10 ^ j = n :=
      eq_of_mem_around hs hinteger (exponent_le_of_lt h hlt) (fun _ => Nat.mod_eq_zero_of_dvd hten)
        (by exact_mod_cast hmem)
    exact_mod_cast hsame

end shortest

end RuleText
