import RuleText.Binary64.Arithmetic
import RuleText.Proofs.Binary64.Interval

/-!
# Rounding is monotone

The greater of two numbers is not rounded to less than the other. At one place this is so for the integers that
they round to. At two places it is so because of the power of two between them: at the lower place a significand
is not beyond it, and at the higher place, where significands are full, it is not below. Whether the result is
finite depends on it alone, so a number below one that is rounded to a finite value is rounded to one as well.

Products are rounded once, and a product grows with its factors. So what is known of one product is known of
all that are greater, or of all that are less.

Main definitions:

- `RoundsTo`: the number that a number is rounded to, if there is no greatest one;
- `Binary64.IsValue`: the finite values by their signs and by what they are without.

Main statements:

- `RoundsTo.mono`: rounding is monotone;
- `Binary64.ofRatio_roundsTo`: a quotient is rounded to infinity if it is rounded to too much;
- `Binary64.isValue_ofRatio_mono`, `Binary64.isValue_times_mono`: lesser quotients and products of finite ones.
-/

namespace RuleText

open Binary64 (placeOf minExponent maxExponent)

/-! ### Numbers rounded to numbers -/

/-- The lesser of two numbers rounds to no greater integer. -/
theorem Rounds.mono {x y : ℚ} {m n : Nat} (hm : Rounds x m) (hn : Rounds y n) (hxy : x ≤ y) : m ≤ n := by
  refine Nat.le_of_not_lt fun hlt => ?_
  have hstep : (n : ℚ) + 1 ≤ m := by exact_mod_cast hlt
  have hhigh := (Between.le hn).2
  have hlow := (Between.le hm).1
  -- the intervals of the two integers meet in a half at most
  obtain rfl : x = y := by linarith
  exact hn.not_lt hm hlt

theorem placeOf_mono {x y : ℚ} (hx : 0 < x) (hxy : x ≤ y) : placeOf x ≤ placeOf y :=
  max_le_max_right _ (Int.sub_le_sub_right (Int.log_mono_right hx hxy) _)

/-- A number is rounded to another one at its place. -/
def RoundsTo (x v : ℚ) : Prop :=
  ∃ n : Nat, Rounds (x / 2 ^ placeOf x) n ∧ v = n * 2 ^ placeOf x

/-- **Rounding is monotone.** -/
theorem RoundsTo.mono {x y v w : ℚ} (hv : RoundsTo x v) (hw : RoundsTo y w) (hx : 0 < x) (hxy : x ≤ y) :
    v ≤ w := by
  obtain ⟨m, hm, rfl⟩ := hv
  obtain ⟨n, hn, rfl⟩ := hw
  have hleast : minExponent ≤ placeOf x := le_max_right _ _
  rcases (placeOf_mono hx hxy).eq_or_lt with heq | hlt
  · rw [← heq] at hn ⊢
    have hscaled : x / 2 ^ placeOf x ≤ y / 2 ^ placeOf x := by gcongr
    have hle : (m : ℚ) ≤ n := by exact_mod_cast hm.mono hn hscaled
    gcongr
  · -- between the places there is a power of two
    have hm' : (m : ℚ) ≤ 2 ^ 53 := by
      exact_mod_cast (hm.le (by exact_mod_cast (Binary64.lt_placeOf x).le) : m ≤ 2 ^ 53)
    have hn' : (2 : ℚ) ^ 52 ≤ n := by
      have hfull := Binary64.le_placeOf (hx.trans_le hxy) (hleast.trans_lt hlt)
      exact_mod_cast hn.ge (by exact_mod_cast hfull)
    calc (m : ℚ) * 2 ^ placeOf x ≤ 2 ^ 53 * 2 ^ placeOf x := by gcongr
      _ = 2 ^ 52 * 2 ^ (placeOf x + 1) := by
        rw [zpow_add_one₀ two_ne_zero]
        ring
      _ ≤ 2 ^ 52 * 2 ^ placeOf y := by
        gcongr
        · exact one_le_two
        · exact hlt
      _ ≤ n * 2 ^ placeOf y := by gcongr

namespace Binary64

/-! ### Finite values -/

/-- A finite value, by its sign and by the number that it is without it. -/
def IsValue (x : Binary64) (negative : Bool) (v : ℚ) : Prop :=
  ∃ significand exponent, x = .finite negative significand exponent ∧ v = significand * 2 ^ exponent

/-- **A quotient is rounded** to a finite value unless it is rounded to more than all of them. -/
theorem ofRatio_roundsTo (negative : Bool) {num den : Nat} (hnum : 0 < num) (hden : 0 < den) :
    ∃ v, RoundsTo ((num : ℚ) / den) v ∧
      (v < 2 ^ (1024 : Int) → IsValue (ofRatio negative num den) negative v) ∧
      (2 ^ (1024 : Int) ≤ v → ofRatio negative num den = .infinite negative) := by
  have hx : (0 : ℚ) < num / den := div_pos (Nat.cast_pos.mpr hnum) (Nat.cast_pos.mpr hden)
  obtain ⟨n, hround, hlong, hfits⟩ := ofRatio_rounds negative hnum hden rfl
  refine ⟨_, ⟨n, hround, rfl⟩, ?_⟩
  have hhigh := lt_placeOf ((num : ℚ) / den)
  have hlow := le_placeOf hx
  -- only the bounds of the significand at its place count from here on
  generalize placeOf ((num : ℚ) / den) = place at hround hlong hfits hhigh hlow ⊢
  by_cases hn : n = 2 ^ 53
  · -- after a carry the value is a power of two
    have hvalue : (n : ℚ) * 2 ^ place = 2 ^ (53 + place) := by
      rw [hn, zpow_add₀ two_ne_zero]
      norm_cast
    have hcarried : (n : ℚ) * 2 ^ place = ((2 ^ 52 : Nat) : ℚ) * 2 ^ (place + 1) := by
      rw [hn, zpow_add_one₀ two_ne_zero]
      push_cast
      ring
    rw [hlong hn, hvalue, zpow_lt_zpow_iff_right₀ one_lt_two, zpow_le_zpow_iff_right₀ one_lt_two]
    refine ⟨fun hless => ?_, fun hmore => ?_⟩
    · rw [if_neg (by rw [maxExponent]; omega)]
      exact ⟨_, _, rfl, hvalue.symm.trans hcarried⟩
    · rw [if_pos (by rw [maxExponent]; omega)]
  · have hmost : n ≤ 2 ^ 53 := hround.le (by exact_mod_cast hhigh.le)
    have hbelow : (n : ℚ) < 2 ^ (53 : Int) := by exact_mod_cast lt_of_le_of_ne hmost hn
    rw [hfits hn]
    by_cases hplace : maxExponent < place
    · -- beyond the greatest exponent significands are full
      have hfull : (2 : ℚ) ^ (52 : Int) ≤ n := by
        exact_mod_cast hround.ge (by exact_mod_cast hlow (lt_trans (by decide) hplace))
      have hmore : (2 : ℚ) ^ (1024 : Int) ≤ n * 2 ^ place := by
        calc (2 : ℚ) ^ (1024 : Int) = 2 ^ (52 : Int) * 2 ^ (972 : Int) := zpow_add₀ two_ne_zero 52 972
          _ ≤ n * 2 ^ place := by
            gcongr
            · exact one_le_two
            · exact hplace
      rw [if_pos hplace]
      exact ⟨fun hless => absurd hmore (not_le.mpr hless), fun _ => rfl⟩
    · have hless : (n : ℚ) * 2 ^ place < 2 ^ (1024 : Int) := by
        calc (n : ℚ) * 2 ^ place < 2 ^ (53 : Int) * 2 ^ place := by gcongr
          _ ≤ 2 ^ (53 : Int) * 2 ^ (971 : Int) := by
            gcongr
            · exact one_le_two
            · exact not_lt.mp hplace
          _ = 2 ^ (1024 : Int) := (zpow_add₀ two_ne_zero 53 971).symm
      rw [if_neg hplace]
      exact ⟨fun _ => ⟨_, _, rfl, rfl⟩, fun hmore => absurd hmore (not_le.mpr hless)⟩

/-- A finite value is one number. -/
theorem IsValue.unique {x : Binary64} {a b : Bool} {v w : ℚ} (hv : x.IsValue a v) (hw : x.IsValue b w) :
    v = w := by
  obtain ⟨_, _, rfl, rfl⟩ := hv
  obtain ⟨_, _, heq, rfl⟩ := hw
  cases heq
  rfl

theorem not_isValue_infinite {a b : Bool} {v : ℚ} : ¬ (infinite a).IsValue b v := by
  rintro ⟨_, _, heq, -⟩
  cases heq

/-- **A quotient below one that is rounded to a finite value** is rounded to a finite value, and to no greater
one. -/
theorem isValue_ofRatio_mono (negative : Bool) {num den num' den' : Nat} (hnum : 0 < num) (hden : 0 < den)
    (hden' : 0 < den') (hle : (num : ℚ) / den ≤ num' / den') {a b : Bool} {w : ℚ}
    (h : (ofRatio a num' den').IsValue b w) : ∃ v, (ofRatio negative num den).IsValue negative v ∧ v ≤ w := by
  have hpos : (0 : ℚ) < num / den := div_pos (Nat.cast_pos.mpr hnum) (Nat.cast_pos.mpr hden)
  have hnum' : 0 < num' := by
    have hpos' := (lt_div_iff₀ (Nat.cast_pos.mpr hden')).mp (hpos.trans_le hle)
    rw [zero_mul] at hpos'
    exact Nat.cast_pos.mp hpos'
  obtain ⟨v, hv, hfinite, -⟩ := ofRatio_roundsTo negative hnum hden
  obtain ⟨w', hw', hfinite', hinfinite'⟩ := ofRatio_roundsTo a hnum' hden'
  have hless : w' < 2 ^ (1024 : Int) := by
    refine lt_of_not_ge fun hmore => ?_
    rw [hinfinite' hmore] at h
    exact not_isValue_infinite h
  obtain rfl := h.unique (hfinite' hless)
  have hvw := hv.mono hw' hpos hle
  exact ⟨v, hfinite (hvw.trans_lt hless), hvw⟩

/-! ### Products -/

section Products

variable {x y x' y' : Binary64} {a b : Bool} {v w : ℚ}

/-- A product is a quotient of natural numbers, rounded. -/
theorem times_eq_ofRatio (hx : x.IsValue a v) (hy : y.IsValue b w) (hv : 0 < v) (hw : 0 < w) :
    ∃ num den : Nat, 0 < num ∧ 0 < den ∧ (num : ℚ) / den = v * w ∧ x.times y = ofRatio (a != b) num den := by
  obtain ⟨m, e, rfl, rfl⟩ := hx
  obtain ⟨n, f, rfl, rfl⟩ := hy
  have hm : 0 < m := Nat.pos_of_ne_zero fun hzero => by simp [hzero] at hv
  have hn : 0 < n := Nat.pos_of_ne_zero fun hzero => by simp [hzero] at hw
  obtain ⟨hp, hq, hpower⟩ := powTwo_eq (e + f)
  refine ⟨_, _, Nat.mul_pos (Nat.mul_pos hm hn) hp, hq, ?_, rfl⟩
  have hq' : ((powTwo (e + f)).2 : ℚ) ≠ 0 := Nat.cast_ne_zero.mpr (Nat.ne_of_gt hq)
  rw [div_eq_iff hq', Nat.cast_mul, Nat.cast_mul, hpower, zpow_add₀ two_ne_zero]
  ring

/-- **A product of lesser factors** than one with a finite value has a finite value, and no greater one. -/
theorem isValue_times_mono (hx : x.IsValue a v) (hy : y.IsValue b w) (hv : 0 < v) (hw : 0 < w)
    {a' b' c : Bool} {v' w' u' : ℚ} (hx' : x'.IsValue a' v') (hy' : y'.IsValue b' w') (hvle : v ≤ v')
    (hwle : w ≤ w') (h : (x'.times y').IsValue c u') : ∃ u, (x.times y).IsValue (a != b) u ∧ u ≤ u' := by
  obtain ⟨num, den, hnum, hden, hratio, hproduct⟩ := times_eq_ofRatio hx hy hv hw
  obtain ⟨num', den', -, hden', hratio', hproduct'⟩ :=
    times_eq_ofRatio hx' hy' (hv.trans_le hvle) (hw.trans_le hwle)
  rw [hproduct'] at h
  rw [hproduct]
  refine isValue_ofRatio_mono _ hnum hden hden' ?_ h
  rw [hratio, hratio']
  exact mul_le_mul hvle hwle hw.le (hv.le.trans hvle)

/-- A finite product is in canonical form. -/
theorem canonical_times {negative : Bool} {significand : Nat} {exponent : Int}
    (h : x.times y = .finite negative significand exponent) : Canonical significand exponent := by
  unfold times at h
  split at h
  · exact canonical_ofRatio (powTwo_eq _).2.1 h
  · split at h <;> cases h
  · split at h <;> cases h
  · cases h
  · cases h

/-- **One is neutral**, for values in canonical form. -/
theorem times_one {negative : Bool} {significand : Nat} {exponent : Int} (h : Canonical significand exponent)
    (hs : 0 < significand) :
    (finite negative significand exponent).times (powerOfTen 0) = finite negative significand exponent := by
  have hone : powerOfTen 0 = finite false (2 ^ 52) (-52) := rfl
  have hvalue : (0 : ℚ) < significand * 2 ^ exponent := by
    have hcast : (0 : ℚ) < significand := Nat.cast_pos.mpr hs
    positivity
  obtain ⟨num, den, hnum, hden, hratio, hproduct⟩ :=
    times_eq_ofRatio (x := finite negative significand exponent) ⟨_, _, rfl, rfl⟩ ⟨_, _, hone, rfl⟩ hvalue
      (by positivity)
  rw [hproduct, Bool.bne_false]
  refine ofRatio_of_mem negative h hs hnum hden hratio.symm ((Interval.mem_around_iff hs).mpr ?_)
  -- the product is the value itself, which is an inner number of its interval
  have hcenter : (significand : ℚ) * 2 ^ exponent * (((2 ^ 52 : Nat) : ℚ) * 2 ^ (-52 : Int)) / 2 ^ exponent =
      significand := by
    have hunit : ((2 ^ 52 : Nat) : ℚ) * 2 ^ (-52 : Int) = 1 := by
      norm_num
    rw [hunit, mul_one, mul_div_cancel_right₀ _ (by positivity)]
  have hhalf : 0 < Interval.halfBelow significand exponent := Interval.halfBelow_pos
  rw [hcenter]
  exact Between.of_lt (by linarith) (by linarith)

end Products

end Binary64

end RuleText
