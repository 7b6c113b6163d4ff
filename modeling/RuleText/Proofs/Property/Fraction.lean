import RuleText.Property.Basic
import RuleText.Proofs.Binary64.Shortest

/-!
# Which numbers show a fraction

With the point written among the digits or behind them, a number always shows a fraction, if only a zero. With
an exponent it shows one if there are two digits to put the point between. So whether there is one depends on
the magnitude of what is written, which has to be between the bounds of the layout, or else on the number of
its digits.

What is written is not quite the value. It has its leading digit in the same place, or is the next power of ten,
and then it matters whether that power is one of the bounds. But no value below `10 ^ 16` has that power in its
interval, since such values are further apart from it than half of their last place, and neither has a value
below `10 ^ (-4)`. So the bounds hold for the value as well.

Integers below `10 ^ 16` are written with all their digits and a zero behind the point. From there on, integers
have an exponent, and some of them no fraction.

Main definition:

- `HasFraction`: texts with a point and a digit behind it.

Main statements:

- `NumberLayout.hasFraction_magnitude_iff`: in any layout, when a number shows a fraction;
- `NumberLayout.magnitude_of_integer`: in any layout, how integers are written;
- `Value.text_float`: the values of properties that show a fraction;
- `Value.not_hasFraction`: a value without one.
-/

namespace RuleText

/-! ### Texts with a fraction -/

/-- A text has a point with a digit behind it. -/
def HasFraction (text : List Char) : Prop :=
  ∃ before digit after, text = before ++ '.' :: digit :: after ∧ digit.isDigit = true

/-- What stands in front of a text without a point is no fraction. -/
theorem hasFraction_cons_iff {c : Char} (hc : c ≠ '.') (text : List Char) :
    HasFraction (c :: text) ↔ HasFraction text := by
  constructor
  · rintro ⟨before, digit, after, heq, hdigit⟩
    cases before with
    | nil => exact absurd (List.cons.inj heq).1 hc
    | cons d before => exact ⟨before, digit, after, (List.cons.inj heq).2, hdigit⟩
  · rintro ⟨before, digit, after, rfl, hdigit⟩
    exact ⟨c :: before, digit, after, rfl, hdigit⟩

theorem not_hasFraction_of_not_mem {text : List Char} (h : '.' ∉ text) : ¬ HasFraction text := by
  rintro ⟨before, digit, after, rfl, -⟩
  exact h (List.mem_append_right before List.mem_cons_self)

/-! ### Digits -/

/-- An integer has no point. -/
theorem point_not_mem_integerText (n : Int) : '.' ∉ integerText n := by
  have hdigits : '.' ∉ decimalText n.natAbs := fun h => by cases isDigit_of_mem_decimalText h
  unfold integerText
  split
  · exact List.not_mem_cons_of_ne_of_not_mem (by decide) hdigits
  · exact hdigits

theorem length_decimalText_eq_one_iff (n : Nat) : (decimalText n).length = 1 ↔ n < 10 := by
  have hpos : 0 < (decimalText n).length := Nat.length_toDigits_pos
  have hle : (decimalText n).length ≤ 1 ↔ n < 10 ^ 1 := Nat.length_toDigits_le_iff (by decide) (by decide)
  rw [pow_one] at hle
  rw [← hle]
  omega

/-- A power of ten is a row of zeros behind the digits. -/
theorem decimalText_mul_pow {d : Nat} (hd : 0 < d) (places : Nat) :
    decimalText (d * 10 ^ places) = decimalText d ++ List.replicate places '0' := by
  induction places with
  | zero => rw [pow_zero, mul_one, List.replicate_zero, List.append_nil]
  | succ places ih =>
    have hpos : 0 < d * 10 ^ places := Nat.mul_pos hd (Nat.pow_pos (by decide))
    have hnext : d * 10 ^ (places + 1) = 10 * (d * 10 ^ places) + 0 := by
      rw [pow_succ, add_zero]
      ring
    calc decimalText (d * 10 ^ (places + 1))
        = decimalText (d * 10 ^ places) ++ ['0'] := by
          rw [hnext]
          exact (Nat.toDigits_append_toDigits (by decide) hpos (by decide)).symm
      _ = decimalText d ++ List.replicate (places + 1) '0' := by
          rw [ih, List.append_assoc, List.replicate_succ']

namespace NumberLayout

/-! ### Layouts -/

section Digits

variable {digits : List Char} (hne : digits ≠ []) (hdigits : ∀ c ∈ digits, c.isDigit = true)

include hne hdigits

/-- With the point among the digits there is a fraction. -/
theorem hasFraction_plain (leading : Int) : HasFraction (plain digits leading) := by
  unfold plain
  split
  · -- the digit behind the point is a zero or the first digit
    cases (-leading).toNat - 1 with
    | zero =>
      obtain ⟨d, more, rfl⟩ := List.exists_cons_of_ne_nil hne
      exact ⟨['0'], d, more, rfl, hdigits d List.mem_cons_self⟩
    | succ places => exact ⟨['0'], '0', List.replicate places '0' ++ digits, rfl, rfl⟩
  · simp only
    split
    · exact ⟨_, '0', [], rfl, rfl⟩
    · rename_i hlong
      have hdrop : digits.drop (leading.toNat + 1) ≠ [] := by
        rw [ne_eq, List.drop_eq_nil_iff]
        exact hlong
      obtain ⟨d, more, hmore⟩ := List.exists_cons_of_ne_nil hdrop
      refine ⟨digits.take (leading.toNat + 1), d, more, by rw [hmore], hdigits d ?_⟩
      exact List.mem_of_mem_drop (hmore ▸ List.mem_cons_self)

/-- With an exponent there is one if there is more than one digit. -/
theorem hasFraction_scientific_iff (layout : NumberLayout) (leading : Int) :
    HasFraction (layout.scientific digits leading) ↔ digits.length ≠ 1 := by
  match digits, hne with
  | [d], _ =>
    refine iff_of_false (not_hasFraction_of_not_mem ?_) fun h => h rfl
    show '.' ∉ [d] ++ 'e' :: (if layout.plusSign ∧ 0 ≤ leading then ['+'] else []) ++ integerText leading
    intro hmem
    rcases List.mem_append.mp hmem with hmem | hmem
    · rcases List.mem_cons.mp hmem with rfl | hmem
      · cases hdigits '.' List.mem_cons_self
      · split at hmem
        · exact absurd hmem (by decide)
        · exact absurd hmem (by decide)
    · exact point_not_mem_integerText leading hmem
  | d :: next :: more, _ =>
    refine iff_of_true ?_ (by simp)
    have hnext : next.isDigit = true := hdigits next (List.mem_cons_of_mem d List.mem_cons_self)
    refine ⟨[d], next, more ++ 'e' :: (if layout.plusSign ∧ 0 ≤ leading then ['+'] else []) ++
      integerText leading, ?_, hnext⟩
    simp [scientific]

end Digits

theorem e_mem_scientific (layout : NumberLayout) (digits : List Char) (leading : Int) :
    'e' ∈ layout.scientific digits leading := by
  simp [scientific]

/-- A number without a fraction of its own, with the point behind its digits. -/
theorem plain_of_integer {d : Nat} (hd : 0 < d) (places : Nat) :
    plain (decimalText d) (places + (decimalText d).length - 1) =
      decimalText (d * 10 ^ places) ++ ['.', '0'] := by
  have hlength : 0 < (decimalText d).length := Nat.length_toDigits_pos
  have hleading : ¬ ((places : Int) + (decimalText d).length - 1 < 0) := by omega
  have hwhole : ((places : Int) + (decimalText d).length - 1).toNat + 1 = places + (decimalText d).length := by
    omega
  unfold plain
  rw [if_neg hleading]
  simp only [hwhole]
  rw [if_pos (Nat.le_add_left _ _), Nat.add_sub_cancel_right, decimalText_mul_pow hd]

section magnitude

variable (layout : NumberLayout) {significand : Nat} {exponent : Int}
  (h : Binary64.Canonical significand exponent) (hs : 0 < significand)

include h hs

/-- The magnitude that decides between the two ways is that of what is written. -/
theorem magnitude_eq :
    layout.magnitude significand exponent =
      if layout.leastPlain ≤ Int.log 10 (shortest layout.tie significand exponent).value ∧
          Int.log 10 (shortest layout.tie significand exponent).value ≤ layout.mostPlain then
        plain (decimalText (shortest layout.tie significand exponent).digits)
          (Int.log 10 (shortest layout.tie significand exponent).value)
      else
        layout.scientific (decimalText (shortest layout.tie significand exponent).digits)
          (Int.log 10 (shortest layout.tie significand exponent).value) := by
  have hlog : Int.log 10 (shortest layout.tie significand exponent).value =
      (shortest layout.tie significand exponent).exponent +
        (decimalText (shortest layout.tie significand exponent).digits).length - 1 :=
    Binary64.log_decimal (shortest_digits_pos h hs layout.tie) _
  rw [hlog]
  rfl

/-- **When a number shows a fraction**, in any layout. -/
theorem hasFraction_magnitude_iff :
    HasFraction (layout.magnitude significand exponent) ↔
      (layout.leastPlain ≤ Int.log 10 (shortest layout.tie significand exponent).value ∧
          Int.log 10 (shortest layout.tie significand exponent).value ≤ layout.mostPlain) ∨
        ¬ (shortest layout.tie significand exponent).digits < 10 := by
  have hne : decimalText (shortest layout.tie significand exponent).digits ≠ [] := decimalText_ne_nil _
  have hdigits : ∀ c ∈ decimalText (shortest layout.tie significand exponent).digits, c.isDigit = true :=
    fun c hc => isDigit_of_mem_decimalText hc
  rw [layout.magnitude_eq h hs]
  split
  · rename_i hplain
    exact iff_of_true (hasFraction_plain hne hdigits _) (Or.inl hplain)
  · rename_i hnot
    rw [hasFraction_scientific_iff hne hdigits, or_iff_right hnot]
    exact not_congr (length_decimalText_eq_one_iff _)

/-- **How integers are written** in any layout that has the point behind sixteen digits. -/
theorem magnitude_of_integer (hleast : layout.leastPlain ≤ 0) (hmost : 15 ≤ layout.mostPlain) {n : Nat}
    (hinteger : (significand : ℚ) * 2 ^ exponent = n) (hn : n < 10 ^ 16) :
    layout.magnitude significand exponent = decimalText n ++ ['.', '0'] := by
  obtain ⟨hvalue, hexponent⟩ := shortest_of_integer h hs layout.tie hinteger hn
  have hdigits := shortest_digits_pos h hs layout.tie
  have hlog := Binary64.log_decimal hdigits (shortest layout.tie significand exponent).exponent
  have hlog' : Int.log 10 (shortest layout.tie significand exponent).value = Nat.log 10 n := by
    rw [hvalue]
    exact Int.log_natCast 10 n
  have hmagnitude : Nat.log 10 n < 16 := by
    have hpos : 0 < n := by
      have hcenter := Interval.center_pos hs exponent
      rw [Interval.center_around, hinteger] at hcenter
      exact_mod_cast hcenter
    exact Nat.log_lt_of_lt_pow (Nat.ne_of_gt hpos) hn
  -- the integer has its leading digit in front of the point
  rw [layout.magnitude_eq h hs, if_pos (by omega)]
  unfold Decimal.value at hvalue ⊢
  rw [hlog]
  obtain ⟨places, hplaces⟩ := Int.eq_ofNat_of_zero_le hexponent
  rw [hplaces, zpow_natCast] at hvalue
  have hn : (shortest layout.tie significand exponent).digits * 10 ^ places = n := by exact_mod_cast hvalue
  rw [hplaces, ← hn]
  exact plain_of_integer hdigits places

end magnitude

end NumberLayout

/-! ### The bounds of the text of properties -/

section Bounds

variable {significand : Nat} {exponent : Int} (h : Binary64.Canonical significand exponent) (hs : 0 < significand)

include hs

theorem le_of_mem_around {x : ℚ} (hmem : (Interval.around significand exponent).Mem x) :
    x ≤ (significand + 1 / 2) * 2 ^ exponent := by
  have hpos : (0 : ℚ) < 2 ^ exponent := by positivity
  exact (div_le_iff₀ hpos).mp ((Interval.mem_around_iff hs).mp hmem).le.2

include h

/-- A value with less than seventeen digits before the point is not mistaken for one with seventeen. -/
theorem not_mem_of_lt_greatest (hlt : (significand : ℚ) * 2 ^ exponent < 10 ^ (16 : Int)) :
    ¬ (Interval.around significand exponent).Mem (10 ^ (16 : Int)) := by
  intro hmem
  have hhigh := le_of_mem_around hs hmem
  have hexponent : exponent ≤ 1 := exponent_le_of_lt h (by exact_mod_cast hlt)
  obtain ⟨j, rfl⟩ : ∃ j : Nat, exponent = 1 - j := ⟨(1 - exponent).toNat, by omega⟩
  have hpos : (0 : ℚ) < 2 ^ j := by positivity
  rw [zpow_sub₀ two_ne_zero, zpow_one, zpow_natCast, zpow_ofNat, mul_div_assoc'] at hlt hhigh
  rw [div_lt_iff₀ hpos] at hlt
  rw [le_div_iff₀ hpos, add_mul, one_div_mul_cancel two_ne_zero] at hhigh
  -- the bound is an even multiple of half of the last place, so it is no odd one
  have hbelow : significand * 2 < 10 ^ 16 * 2 ^ j := by exact_mod_cast hlt
  have habove : 10 ^ 16 * 2 ^ j ≤ significand * 2 + 1 := by exact_mod_cast hhigh
  omega

/-- A value below a ten-thousandth is not mistaken for it. -/
theorem not_mem_of_lt_least (hlt : (significand : ℚ) * 2 ^ exponent < 10 ^ (-4 : Int)) :
    ¬ (Interval.around significand exponent).Mem (10 ^ (-4 : Int)) := by
  intro hmem
  have hhigh := le_of_mem_around hs hmem
  have hbelow : (significand : ℚ) + 1 ≤ 2 ^ 53 := by exact_mod_cast h.below
  rcases lt_trichotomy exponent (-66) with hsmall | rfl | hlarge
  · -- these values end a good deal below the bound
    have hpower : (2 : ℚ) ^ exponent ≤ 2 ^ (-67 : Int) := zpow_le_zpow_right₀ one_le_two (by omega)
    have hle : ((significand : ℚ) + 1 / 2) * 2 ^ exponent ≤ 2 ^ 53 * 2 ^ (-67 : Int) :=
      mul_le_mul (by linarith) hpower (by positivity) (by positivity)
    have hbound := hhigh.trans hle
    norm_num at hbound
  · -- among the values next to it none is so near
    have hless : significand * 10 ^ 4 < 2 ^ 66 := by
      rw [zpow_neg, zpow_neg, ← div_eq_mul_inv, div_lt_iff₀ (by positivity), inv_mul_eq_div,
        lt_div_iff₀ (by positivity)] at hlt
      exact_mod_cast hlt
    have hmore : 2 * 2 ^ 66 ≤ (2 * significand + 1) * 10 ^ 4 := by
      rw [zpow_neg, zpow_neg, ← div_eq_mul_inv, le_div_iff₀ (by positivity), inv_mul_eq_div,
        div_le_iff₀ (by positivity)] at hhigh
      have htwice : (2 : ℚ) * 2 ^ 66 ≤ (2 * significand + 1) * 10 ^ 4 := by
        norm_num at hhigh ⊢
        linarith
      exact_mod_cast htwice
    omega
  · -- and these values are above it
    have hbound := (h.le_value (e := -65) (by decide) (by omega)).trans_lt hlt
    norm_num at hbound

/-- The point stands among the digits of a value from a ten-thousandth up to sixteen digits before it. -/
theorem plain_iff :
    (textNumbers.leastPlain ≤ Int.log 10 (shortest textNumbers.tie significand exponent).value ∧
        Int.log 10 (shortest textNumbers.tie significand exponent).value ≤ textNumbers.mostPlain) ↔
      10 ^ (-4 : Int) ≤ (significand : ℚ) * 2 ^ exponent ∧
        (significand : ℚ) * 2 ^ exponent < 10 ^ (16 : Int) := by
  have hleast := log_shortest_lt_iff h hs textNumbers.tie (-4)
    (by rw [Interval.center_around]; exact not_mem_of_lt_least h hs)
  have hgreatest := log_shortest_lt_iff h hs textNumbers.tie 16
    (by rw [Interval.center_around]; exact not_mem_of_lt_greatest h hs)
  rw [Interval.center_around] at hleast hgreatest
  rw [← hgreatest, ← not_lt (b := (10 : ℚ) ^ (-4 : Int)), ← hleast]
  show -4 ≤ _ ∧ _ ≤ 15 ↔ _
  omega

/-- The number of digits that are written is one exactly if some number of one digit reads as the value. -/
theorem oneDigit_iff (negative : Bool) :
    (shortest textNumbers.tie significand exponent).digits < 10 ↔
      ¬ ∀ (digit : Nat) (k : Int), digit < 10 →
        Binary64.ofDecimal negative digit k ≠ .finite negative significand exponent := by
  rw [shortest_oneDigit_iff h hs]
  constructor
  · rintro ⟨digit, k, hdigit, hmem⟩ hnever
    exact hnever digit k hdigit ((Binary64.ofDecimal_eq_iff negative h hs digit k).mpr hmem)
  · intro hsome
    push Not at hsome
    obtain ⟨digit, k, hdigit, hreads⟩ := hsome
    exact ⟨digit, k, hdigit, (Binary64.ofDecimal_eq_iff negative h hs digit k).mp hreads⟩

end Bounds

/-! ### The text of properties -/

/-- The text of a finite value, with its sign. -/
theorem Value.toList_text_float (negative : Bool) (significand : Nat) (exponent : Int) :
    (Value.float (.finite negative significand exponent)).text.toList =
      (if negative then ['-'] else []) ++ textNumbers.magnitude significand exponent := by
  show (String.ofList (if negative then '-' :: textNumbers.magnitude significand exponent
    else textNumbers.magnitude significand exponent)).toList = _
  rw [String.toList_ofList]
  cases negative with
  | true => rfl
  | false => rfl

/-- **The values of properties that show a fraction.** They are zero, the values from a ten-thousandth up to
`10 ^ 16`, and beyond these bounds the values that cannot be written with one digit. Integers are written with
their digits and a zero behind the point exactly if they are below `10 ^ 16`. -/
theorem Value.text_float (negative : Bool) {significand : Nat} {exponent : Int}
    (h : Binary64.Canonical significand exponent) :
    (HasFraction (Value.float (.finite negative significand exponent)).text.toList ↔
      significand = 0 ∨
        (10 ^ (-4 : Int) ≤ (significand : ℚ) * 2 ^ exponent ∧
          (significand : ℚ) * 2 ^ exponent < 10 ^ (16 : Int)) ∨
        ∀ (digit : Nat) (k : Int), digit < 10 →
          Binary64.ofDecimal negative digit k ≠ .finite negative significand exponent) ∧
      ∀ n : Nat, (significand : ℚ) * 2 ^ exponent = n →
        ((Value.float (.finite negative significand exponent)).text.toList =
            (if negative then ['-'] else []) ++ decimalText n ++ ['.', '0'] ↔
          n < 10 ^ 16) := by
  -- a sign in front makes no difference to the fraction
  have hsign : HasFraction (Value.float (.finite negative significand exponent)).text.toList ↔
      HasFraction (textNumbers.magnitude significand exponent) := by
    rw [Value.toList_text_float]
    cases negative with
    | true => exact hasFraction_cons_iff (by decide) _
    | false => exact Iff.rfl
  rw [hsign, Value.toList_text_float]
  simp only [List.append_assoc, List.append_cancel_left_eq]
  rcases Nat.eq_zero_or_pos significand with rfl | hs
  · -- zero is written as such
    have hzero : textNumbers.magnitude 0 exponent = ['0', '.', '0'] := by
      have hshortest : shortest textNumbers.tie 0 exponent = ⟨0, 0⟩ := if_pos rfl
      unfold NumberLayout.magnitude
      rw [hshortest]
      decide
    rw [hzero]
    refine ⟨iff_of_true ⟨['0'], '0', [], rfl, rfl⟩ (Or.inl rfl), fun n hn => ?_⟩
    rw [Nat.cast_zero, zero_mul] at hn
    obtain rfl : n = 0 := by exact_mod_cast hn.symm
    exact iff_of_true rfl (by decide)
  · refine ⟨?_, fun n hn => ⟨fun htext => ?_, fun hlt => ?_⟩⟩
    · -- the other magnitudes have one if they are plain, or have a second digit
      rw [textNumbers.hasFraction_magnitude_iff h hs, plain_iff h hs, oneDigit_iff h hs negative, not_not,
        or_iff_right (Nat.ne_of_gt hs)]
    · -- with an exponent there is a letter in the text
      refine lt_of_not_ge fun hge => ?_
      have hlarge : ¬ ((significand : ℚ) * 2 ^ exponent < 10 ^ (16 : Int)) := by
        rw [hn, not_lt]
        exact_mod_cast hge
      rw [textNumbers.magnitude_eq h hs, if_neg (fun hplain => hlarge ((plain_iff h hs).mp hplain).2)] at htext
      have hletter := htext ▸ textNumbers.e_mem_scientific _ _
      rcases List.mem_append.mp hletter with hletter | hletter
      · cases isDigit_of_mem_decimalText hletter
      · exact absurd hletter (by decide)
    · exact textNumbers.magnitude_of_integer h hs (by decide) (by decide) hn hlt

/-! ### A value without a fraction -/

/-- The value of `1e16`. -/
theorem canonical_sixteenZeros : Binary64.Canonical 5000000000000000 1 := by
  have hvalue : Binary64.ofDecimal false 1 16 = .finite false 5000000000000000 1 := rfl
  exact Binary64.canonical_ofDecimal hvalue

theorem text_sixteenZeros : (Value.float (.finite false 5000000000000000 1)).text = "1e16" := by
  rfl

/-- The least of the integers that are written with an exponent, which is read from one digit. -/
theorem Value.text_float_sixteenZeros :
    Binary64.Canonical 5000000000000000 1 ∧
      (HasFraction (Value.float (.finite false 5000000000000000 1)).text.toList ↔
        5000000000000000 = 0 ∨
          (10 ^ (-4 : Int) ≤ ((5000000000000000 : Nat) : ℚ) * 2 ^ (1 : Int) ∧
            ((5000000000000000 : Nat) : ℚ) * 2 ^ (1 : Int) < 10 ^ (16 : Int)) ∨
          ∀ (digit : Nat) (k : Int), digit < 10 →
            Binary64.ofDecimal false digit k ≠ .finite false 5000000000000000 1) ∧
        ∀ n : Nat, ((5000000000000000 : Nat) : ℚ) * 2 ^ (1 : Int) = n →
          ((Value.float (.finite false 5000000000000000 1)).text.toList =
              (if false then ['-'] else []) ++ decimalText n ++ ['.', '0'] ↔
            n < 10 ^ 16) :=
  ⟨canonical_sixteenZeros, Value.text_float false canonical_sixteenZeros⟩

/-- **Not every value shows a fraction**, and not every integer has its digits and a zero behind the point. -/
theorem Value.not_hasFraction :
    ¬ ∀ (negative : Bool) (significand : Nat) (exponent : Int), Binary64.Canonical significand exponent →
      HasFraction (Value.float (.finite negative significand exponent)).text.toList ∧
        ∀ n : Nat, (significand : ℚ) * 2 ^ exponent = n →
          (Value.float (.finite negative significand exponent)).text.toList =
            (if negative then ['-'] else []) ++ decimalText n ++ ['.', '0'] := by
  intro hfraction
  have hshown := (hfraction false 5000000000000000 1 canonical_sixteenZeros).1
  rw [text_sixteenZeros] at hshown
  exact not_hasFraction_of_not_mem (by decide) hshown

end RuleText
