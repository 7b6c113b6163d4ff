import RuleText.Proofs.Binary64.Monotone
import RuleText.Proofs.Json.Form

/-!
# Integers as numbers

The digits of an integer that find room in 64 bits are its leading digits (`leading_gather`), and the number of
the others is the power of ten that they are multiplied by. If no digit is left over, the integer is a number
of JSON as it is, unless it is negative and does not fit with its sign. Otherwise it is made of two rounded
factors.

Such a product grows with its digits and with its places. So it is finite for all integers below the limit
because it is finite for the greatest digits at 288 places and for the greatest at 289, and it is infinite for
all others because it is so for the next digits at 289 places and for the least at 290. These four are
computed. In the same way, a product is as far from zero as the least integer that has one, since the
products of that integer and of the shortest with a place left over are.

Main statements:

- `leading_gather`: the digits that find room;
- `exists_rounded`, `not_isValue_rounded`: integers below the limit, and the others;
- `number?_integer`, `number?_refused`: the number of an integer in decimal.
-/

namespace RuleText.Json

open Binary64 (IsValue)

/-! ### Leading digits -/

theorem digitValue_lt {c : Char} (h : c.isDigit = true) : c.toNat - '0'.toNat < 10 := by
  obtain ⟨-, hhigh⟩ := Char.isDigit_iff_toNat.mp h
  have hnine : '9'.toNat = '0'.toNat + 9 := rfl
  omega

/-- Digits come to less than the power of ten that has one place more. -/
theorem ofDigitChars_lt {digits : List Char} (h : ∀ c ∈ digits, c.isDigit = true) :
    Nat.ofDigitChars 10 digits 0 < 10 ^ digits.length := by
  induction digits with
  | nil => exact Nat.one_pos
  | cons c others ih =>
    obtain ⟨hc, hothers⟩ := List.forall_mem_cons.mp h
    have hdigit := digitValue_lt hc
    have hrest := ih hothers
    rw [Nat.ofDigitChars_cons, Nat.ofDigitChars_eq_ofDigitChars_zero, List.length_cons, Nat.pow_succ,
      Nat.mul_zero, Nat.zero_add]
    -- the digit in front is at most nine
    calc 10 ^ others.length * (c.toNat - '0'.toNat) + Nat.ofDigitChars 10 others 0
        < 10 ^ others.length * (c.toNat - '0'.toNat) + 10 ^ others.length := Nat.add_lt_add_left hrest _
      _ = 10 ^ others.length * (c.toNat - '0'.toNat + 1) := (Nat.mul_succ _ _).symm
      _ ≤ 10 ^ others.length * 10 := Nat.mul_le_mul_left _ hdigit

/-- Without the digits behind it, a number is what it was. -/
theorem ofDigitChars_div (n : Nat) {digits : List Char} (h : ∀ c ∈ digits, c.isDigit = true) :
    Nat.ofDigitChars 10 digits n / 10 ^ digits.length = n := by
  rw [Nat.ofDigitChars_eq_ofDigitChars_zero, Nat.mul_add_div (Nat.pow_pos (by decide)),
    Nat.div_eq_of_lt (ofDigitChars_lt h), Nat.add_zero]

/-- **The digits that find room** are the leading digits of the number. -/
theorem leading_gather {n : Nat} (hn : n < 2 ^ 64) {digits : List Char} (h : ∀ c ∈ digits, c.isDigit = true) :
    Leading (Nat.ofDigitChars 10 digits n) (gather n digits).1 (gather n digits).2.length := by
  induction digits generalizing n with
  | nil =>
    refine ⟨?_, hn, nofun⟩
    show n = n / 10 ^ 0
    rw [Nat.pow_zero, Nat.div_one]
  | cons c others ih =>
    obtain ⟨hc, hothers⟩ := List.forall_mem_cons.mp h
    have hdigit := digitValue_lt hc
    simp only [gather, Nat.ofDigitChars_cons]
    split
    · rename_i hroom
      exact ih hroom hothers
    · rename_i hfull
      -- this digit is the first of those that are left over
      have hnext := ofDigitChars_div (10 * n + (c.toNat - '0'.toNat)) hothers
      refine ⟨?_, hn, fun fewer hfewer => ?_⟩
      · show n = _ / 10 ^ (others.length + 1)
        rw [Nat.pow_succ, ← Nat.div_div_eq_div_mul, hnext]
        omega
      · have hpower : 10 ^ fewer ≤ 10 ^ others.length :=
          Nat.pow_le_pow_right (by decide) (Nat.le_of_lt_succ hfewer)
        calc 2 ^ 64 ≤ 10 * n + (c.toNat - '0'.toNat) := Nat.le_of_not_lt hfull
          _ = _ / 10 ^ others.length := hnext.symm
          _ ≤ _ / 10 ^ fewer := Nat.div_le_div_left hpower (Nat.pow_pos (by decide))

theorem leading_decimalText (n : Nat) :
    Leading n (gather 0 (decimalText n)).1 (gather 0 (decimalText n)).2.length := by
  have hleading := leading_gather (n := 0) (by decide) fun c hc => isDigit_of_mem_decimalText (n := n) hc
  rwa [show Nat.ofDigitChars 10 (decimalText n) 0 = n from decimalValue_decimalText n] at hleading

namespace Leading

variable {n digits places : Nat}

/-- If places are left over, there are leading digits for more than 60 bits. -/
theorem digits_ge (h : Leading n digits places) (hplaces : 0 < places) : 2 ^ 64 / 10 ≤ digits := by
  obtain ⟨fewer, rfl⟩ := Nat.exists_eq_add_one_of_ne_zero (Nat.ne_of_gt hplaces)
  have hpower : 10 ^ (fewer + 1) = 10 ^ fewer * 10 := Nat.pow_succ 10 fewer
  rw [h.eq, hpower, ← Nat.div_div_eq_div_mul]
  exact Nat.div_le_div_right (h.most fewer (Nat.lt_succ_self fewer))

/-- An integer that fits has no places left over. -/
theorem eq_of_lt (h : Leading n digits places) (hn : n < 2 ^ 64) : digits = n ∧ places = 0 := by
  have hplaces : places = 0 := by
    by_contra hne
    have hmost := h.most 0 (Nat.pos_of_ne_zero hne)
    rw [Nat.pow_zero, Nat.div_one] at hmost
    exact absurd hn (Nat.not_lt_of_le hmost)
  refine ⟨?_, hplaces⟩
  rw [h.eq, hplaces, Nat.pow_zero, Nat.div_one]

/-- An integer lies between its leading digits and the next ones, at their place. -/
theorem bounds (h : Leading n digits places) : digits * 10 ^ places ≤ n ∧ n < (digits + 1) * 10 ^ places := by
  have hpower : 0 < 10 ^ places := Nat.pow_pos (by decide)
  rw [h.eq]
  exact ⟨Nat.div_mul_le_self n _, Nat.lt_mul_of_div_lt (Nat.lt_succ_self _) hpower⟩

theorem digits_lt (h : Leading n digits places) {k : Nat} (hn : n < k * 10 ^ places) : digits < k :=
  Nat.lt_of_mul_lt_mul_right (h.bounds.1.trans_lt hn)

theorem le_digits (h : Leading n digits places) {k : Nat} (hn : k * 10 ^ places ≤ n) : k ≤ digits :=
  Nat.le_of_lt_succ (Nat.lt_of_mul_lt_mul_right (hn.trans_lt h.bounds.2))

end Leading

/-! ### Digits times a power of ten -/

/-- What fits 64 bits is less than the greatest finite power of ten. -/
theorem le_powerOfTen {n : Nat} (h : n < 2 ^ 64) : n ≤ 10 ^ 308 := by
  calc n ≤ 10 ^ 20 := (h.trans (by decide)).le
    _ ≤ 10 ^ 308 := pow_le_pow_right₀ (by decide) (by decide)

theorem ofRatio_powerOfTen : Binary64.ofRatio false (10 ^ 308) 1 = .finite false 5010420900022432 971 := by
  decide +kernel

/-- Integers up to the greatest finite power of ten are finite values, in their order. -/
theorem isValue_integers_mono (negative a : Bool) {m n : Nat} (hm : 0 < m) (hmn : m ≤ n)
    (hn : n ≤ 10 ^ 308) :
    ∃ v w, 0 < v ∧ v ≤ w ∧ (Binary64.ofRatio negative m 1).IsValue negative v ∧
      (Binary64.ofRatio a n 1).IsValue a w := by
  have hle : ∀ {k l : Nat}, k ≤ l → (k : ℚ) / (1 : Nat) ≤ l / (1 : Nat) := fun h => by
    rw [Nat.cast_one, div_one, div_one]
    exact_mod_cast h
  have hgreatest : (Binary64.ofRatio false (10 ^ 308) 1).IsValue false _ :=
    ⟨5010420900022432, 971, ofRatio_powerOfTen, rfl⟩
  obtain ⟨w, hw, -⟩ := Binary64.isValue_ofRatio_mono a (Nat.lt_of_lt_of_le hm hmn) Nat.one_pos Nat.one_pos
    (hle hn) hgreatest
  obtain ⟨v, hv, hvw⟩ := Binary64.isValue_ofRatio_mono negative hm Nat.one_pos Nat.one_pos (hle hmn) hw
  -- one is a value itself, so none of them is zero
  obtain ⟨u, hu, huv⟩ := Binary64.isValue_ofRatio_mono false Nat.one_pos Nat.one_pos Nat.one_pos (hle hm) hv
  have hone : (Binary64.ofRatio false 1 1).IsValue false _ := ⟨2 ^ 52, -52, rfl, rfl⟩
  obtain rfl := hu.unique hone
  exact ⟨v, w, lt_of_lt_of_le (by positivity) huv, hvw, hv, hw⟩

/-- **Rounding digits and a power of ten** is monotone in both, as long as the power is finite. -/
theorem isValue_rounded_mono (negative : Bool) {digits digits' places places' : Nat} (hpos : 0 < digits)
    (hdigits : digits ≤ digits') (hfits : digits' < 2 ^ 64) (hplaces : places ≤ places')
    (hpower : places' ≤ 308) {a b : Bool} {w : ℚ} (h : (rounded a digits' places').IsValue b w) :
    ∃ v, (rounded negative digits places).IsValue negative v ∧ v ≤ w := by
  obtain ⟨v, v', hv, hvle, hdigits, hdigits'⟩ :=
    isValue_integers_mono negative a hpos hdigits (le_powerOfTen hfits)
  obtain ⟨u, u', hu, hule, hplaces, hplaces'⟩ := isValue_integers_mono false false (Nat.pow_pos (by decide))
    (pow_le_pow_right₀ (by decide) hplaces) (pow_le_pow_right₀ (by decide) hpower)
  have hproduct := Binary64.isValue_times_mono hdigits hplaces hv hu hdigits' hplaces' hvle hule h
  rwa [Bool.bne_false] at hproduct

section Limit

variable {n digits places : Nat}

theorem not_isValue_of_infinite {x : Binary64} {a b : Bool} {v : ℚ} (hx : x = .infinite a) : ¬ x.IsValue b v := by
  rw [hx]
  exact Binary64.not_isValue_infinite

/-- The limit has 289 places behind its leading digits. -/
theorem integerLimit_between : 2 ^ 64 * 10 ^ 288 ≤ integerLimit ∧ integerLimit ≤ 2 ^ 64 / 10 * 10 ^ 290 := by
  decide +kernel

/-- An integer below the limit has few places behind its leading digits. -/
theorem Leading.places_le (h : Leading n digits places) (hn : n < integerLimit) : places ≤ 289 := by
  by_contra hmore
  obtain ⟨hlow, -⟩ := h.bounds
  have hdigits := h.digits_ge (by omega)
  have hpower : 10 ^ 290 ≤ 10 ^ places := pow_le_pow_right₀ (by decide) (by omega)
  obtain ⟨-, hbeyond⟩ := integerLimit_between
  exact absurd (hbeyond.trans ((Nat.mul_le_mul hdigits hpower).trans hlow)) (Nat.not_le_of_lt hn)

/-- And any other one has many. -/
theorem Leading.le_places (h : Leading n digits places) (hn : integerLimit ≤ n) : 289 ≤ places := by
  by_contra hfew
  obtain ⟨-, hhigh⟩ := h.bounds
  have hdigits : digits + 1 ≤ 2 ^ 64 := h.fits
  have hpower : 10 ^ places ≤ 10 ^ 288 := pow_le_pow_right₀ (by decide) (by omega)
  obtain ⟨hbelow, -⟩ := integerLimit_between
  exact absurd (hhigh.trans_le ((Nat.mul_le_mul hdigits hpower).trans hbelow)) (Nat.not_lt_of_le hn)

/-- The four products on either side of the limit. -/
theorem rounded_around_limit :
    rounded false (2 ^ 64 - 1) 288 = .finite false 7394076163542342 968 ∧
      rounded false 17976931348623156224 289 = .finite false (2 ^ 53 - 1) 971 ∧
      rounded false 17976931348623156225 289 = .infinite false ∧
      rounded false (2 ^ 64 / 10) 290 = .infinite false := by
  decide +kernel

/-- **An integer below the limit** is rounded to a finite value. -/
theorem exists_rounded (negative : Bool) (h : Leading n digits places) (hpos : 0 < digits)
    (hn : n < integerLimit) : ∃ v, (rounded negative digits places).IsValue negative v := by
  have hplaces := h.places_le hn
  obtain ⟨hgreatest, hlast, -, -⟩ := rounded_around_limit
  rcases Nat.lt_or_eq_of_le hplaces with hfew | hlimit
  · -- up to 288 places the greatest digits are good enough
    obtain ⟨v, hv, -⟩ := isValue_rounded_mono negative hpos (Nat.le_sub_one_of_lt h.fits) (by decide)
      (Nat.le_of_lt_succ hfew) (by decide) ⟨_, _, hgreatest, rfl⟩
    exact ⟨v, hv⟩
  · -- and at one more those in front of the limit
    rw [integerLimit, ← hlimit] at hn
    obtain ⟨v, hv, -⟩ := isValue_rounded_mono negative hpos (Nat.le_of_lt_succ (h.digits_lt hn)) (by decide)
      hplaces (by decide) ⟨_, _, hlast, rfl⟩
    exact ⟨v, hv⟩

/-- **An integer from the limit on** is not. -/
theorem not_isValue_rounded {negative b : Bool} {v : ℚ} (h : Leading n digits places) (hn : integerLimit ≤ n)
    (hpower : places ≤ 308) : ¬ (rounded negative digits places).IsValue b v := by
  intro hvalue
  have hplaces := h.le_places hn
  obtain ⟨-, -, hfirst, hleast⟩ := rounded_around_limit
  rcases Nat.lt_or_eq_of_le hplaces with hmore | hlimit
  · obtain ⟨w, hw, -⟩ := isValue_rounded_mono false (by decide) (h.digits_ge (by omega)) h.fits hmore hpower hvalue
    exact not_isValue_of_infinite hleast hw
  · rw [integerLimit, hlimit] at hn
    obtain ⟨w, hw, -⟩ := isValue_rounded_mono false (by decide) (h.le_digits hn) h.fits hplaces hpower hvalue
    exact not_isValue_of_infinite hfirst hw

/-- **An integer of 64 bits or more** is rounded to a value as far from zero as the least of these. -/
theorem rounded_far {negative : Bool} {v : ℚ} (h : Leading n digits places) (hn : 2 ^ 63 ≤ n)
    (hpower : places ≤ 308) (hv : (rounded negative digits places).IsValue negative v) : 2 ^ (63 : Int) ≤ v := by
  rcases Nat.eq_zero_or_pos places with rfl | hplaces
  · have hleast : (rounded false (2 ^ 63) 0).IsValue false _ := ⟨2 ^ 52, 11, by decide, rfl⟩
    have hdigits : 2 ^ 63 ≤ digits := by
      rwa [h.eq, Nat.pow_zero, Nat.div_one]
    obtain ⟨w, hw, hwv⟩ := isValue_rounded_mono false (by decide) hdigits h.fits le_rfl hpower hv
    refine le_trans ?_ hwv
    rw [hw.unique hleast]
    norm_num
  · have hleast : (rounded false (2 ^ 64 / 10) 1).IsValue false _ := ⟨2 ^ 52, 12, by decide, rfl⟩
    obtain ⟨w, hw, hwv⟩ := isValue_rounded_mono false (by decide) (h.digits_ge hplaces) h.fits hplaces hpower hv
    refine le_trans ?_ hwv
    rw [hw.unique hleast]
    norm_num

end Limit

/-! ### The number of an integer -/

/-- The value that is read from a scalar. -/
def Scalar.value : Scalar → Value
  | boolean b => .boolean b
  | integer n =>
    if -(2 : Int) ^ 63 ≤ n ∧ n < (2 : Int) ^ 63 then .integer (Int64.ofInt n)
    else
      let (digits, left) := gather 0 (decimalText n.natAbs)
      .float (rounded (n < 0) digits left.length)
  | string s => .string s

theorem gather_small {d : Nat} (h : d < 2 ^ 64) : gather 0 (decimalText d) = (d, []) := by
  obtain ⟨hdigits, hplaces⟩ := (leading_decimalText d).eq_of_lt h
  exact Prod.ext hdigits (List.length_eq_zero_iff.mp hplaces)

/-- The number of the digits of an integer. -/
theorem number?_decimalText {negative : Bool} {d digits : Nat} {left : List Char}
    (hgather : gather 0 (decimalText d) = (digits, left)) :
    number? negative (decimalText d) [] none =
      if left = [] ∧ negative = false then some (.integer digits)
      else if left = [] ∧ 0 < digits ∧ Int64.minValue.toInt ≤ -(digits : Int) then some (.integer (-(digits : Int)))
      else (scaled (.ofRatio negative digits 1) left.length).map .real := by
  simp [number?, hgather, gather]

theorem number?_unsigned {d : Nat} (h : d < 2 ^ 64) :
    number? false (decimalText d) [] none = some (.integer d) := by
  rw [number?_decimalText (gather_small h), if_pos ⟨rfl, rfl⟩]

theorem number?_negative {d : Nat} (hpos : 0 < d) (h : d ≤ 2 ^ 63) :
    number? true (decimalText d) [] none = some (.integer (-(d : Int))) := by
  have hmin : Int64.minValue.toInt ≤ -(d : Int) := by
    rw [Int64.toInt_minValue]
    omega
  rw [number?_decimalText (gather_small (by omega)), if_neg (by simp), if_pos ⟨rfl, hpos, hmin⟩]

/-- A number that is not kept as an integer is scaled. -/
theorem number?_scaled {negative : Bool} {d : Nat} (hunsigned : negative = false → 2 ^ 64 ≤ d)
    (hnegative : negative = true → 2 ^ 63 < d) {digits : Nat} {left : List Char}
    (hgather : gather 0 (decimalText d) = (digits, left)) :
    number? negative (decimalText d) [] none =
      (scaled (.ofRatio negative digits 1) left.length).map .real := by
  have hleading := leading_decimalText d
  rw [hgather] at hleading
  -- with no digits left over, the integer is one of those that are too large
  have hall : left = [] → digits = d := by
    rintro rfl
    simpa using hleading.eq
  have hfits : digits < 2 ^ 64 := hleading.fits
  have hunsigned' : ¬ (left = [] ∧ negative = false) := by
    rintro ⟨hnil, hsign⟩
    have hlarge := hunsigned hsign
    rw [hall hnil] at hfits
    omega
  have hnegative' : ¬ (left = [] ∧ 0 < digits ∧ Int64.minValue.toInt ≤ -(digits : Int)) := by
    rintro ⟨hnil, -, hmin⟩
    have hlarge := hnegative (Bool.of_not_eq_false fun hsign => hunsigned' ⟨hnil, hsign⟩)
    rw [hall hnil, Int64.toInt_minValue] at hmin
    omega
  rw [number?_decimalText hgather, if_neg hunsigned', if_neg hnegative']

/-- Digits and places that make a finite value are scaled to it. -/
theorem scaled_of_isValue {negative b : Bool} {digits places : Nat} {v : ℚ} (hplaces : places ≤ 308)
    (h : (rounded negative digits places).IsValue b v) :
    scaled (.ofRatio negative digits 1) places = some (rounded negative digits places) := by
  have hsign : ¬ (places : Int) < 0 := by omega
  have hpower : ¬ (maxPower : Int) < places := by
    rw [maxPower]
    omega
  obtain ⟨significand, exponent, hx, -⟩ := h
  have hx' : (Binary64.ofRatio negative digits 1).times (.powerOfTen places) =
      .finite b significand exponent := hx
  rw [scaled, if_neg hsign, if_neg hpower, Int.toNat_natCast, hx', hx]

/-- Others are refused, unless there are no digits. -/
theorem scaled_refused {negative : Bool} {digits places : Nat} (hpos : 0 < digits) (hfits : digits < 2 ^ 64)
    (h : places ≤ 308 → ∀ b v, ¬ (rounded negative digits places).IsValue b v) :
    scaled (.ofRatio negative digits 1) places = none := by
  have hsign : ¬ (places : Int) < 0 := by omega
  rw [scaled, if_neg hsign]
  split
  · -- the power is too large, and the digits are not zero
    obtain ⟨v, -, hv, -, hvalue, -⟩ :=
      isValue_integers_mono negative false hpos le_rfl (le_powerOfTen hfits)
    have hzero : (Binary64.ofRatio negative digits 1).isZero = false := by
      obtain ⟨significand, exponent, hx, rfl⟩ := hvalue
      rw [hx]
      cases significand with
      | zero => simp at hv
      | succ _ => rfl
    rw [hzero]
    rfl
  · rename_i hpower
    have hplaces : places ≤ 308 := by
      rw [maxPower] at hpower
      omega
    rw [Int.toNat_natCast]
    split
    · rename_i hx
      exact absurd ⟨_, _, hx, rfl⟩ (h hplaces _ _)
    · rfl

/-- An integer that does not fit 64 bits with its sign is rounded to a finite value that does not either. -/
theorem exists_finite {n : Int} (h : n.natAbs < integerLimit) (hout : n < -(2 : Int) ^ 63 ∨ (2 : Int) ^ 63 ≤ n)
    {digits places : Nat} (hleading : Leading n.natAbs digits places) :
    ∃ significand exponent : Nat, rounded (n < 0) digits places = .finite (n < 0) significand exponent ∧
      2 ^ 63 ≤ significand * 2 ^ exponent := by
  have hlow : 2 ^ 63 ≤ n.natAbs := by
    omega
  have hpos : 0 < digits := by
    rcases Nat.eq_zero_or_pos places with rfl | hplaces
    · have heq := hleading.eq
      rw [Nat.pow_zero, Nat.div_one] at heq
      omega
    · exact lt_of_lt_of_le (by decide) (hleading.digits_ge hplaces)
  obtain ⟨v, hv⟩ := exists_rounded (n < 0) hleading hpos h
  have hfar := rounded_far hleading hlow ((hleading.places_le h).trans (by decide)) hv
  obtain ⟨significand, exponent, hx, rfl⟩ := hv
  -- with a significand of 53 bits this takes a positive exponent
  have hbelow : (significand : ℚ) < 2 ^ (53 : Int) := by
    exact_mod_cast (Binary64.canonical_times hx).below
  have hexponent : 0 ≤ exponent := by
    by_contra hnegative
    have hsmall : (2 : ℚ) ^ exponent ≤ 1 := zpow_le_one_of_nonpos₀ one_le_two (by omega)
    have hless : (significand : ℚ) * 2 ^ exponent < 2 ^ (53 : Int) := by
      calc (significand : ℚ) * 2 ^ exponent ≤ significand * 1 := by gcongr
        _ < 2 ^ (53 : Int) := by rwa [mul_one]
    have hpowers : (2 : ℚ) ^ (53 : Int) ≤ 2 ^ (63 : Int) := zpow_le_zpow_right₀ one_le_two (by decide)
    exact absurd hfar (not_le.mpr (hless.trans_le hpowers))
  obtain ⟨exponent, rfl⟩ := Int.eq_ofNat_of_zero_le hexponent
  exact ⟨significand, exponent, hx, by exact_mod_cast hfar⟩

/-- An integer of 64 bits is rounded to the nearest value. -/
theorem ofDecimal_eq_rounded (negative : Bool) {d : Nat} (hpos : 0 < d) (h : d < 2 ^ 64) :
    Binary64.ofDecimal negative d 0 = rounded negative d 0 := by
  have hlarge : 2 ^ 64 ≤ 10 ^ 20 := by
    decide
  have hcount : Binary64.digitCount d ≤ 20 :=
    (Nat.length_toDigits_le_iff (by decide) (by decide)).mpr (h.trans_le hlarge)
  have hdecimal : Binary64.ofDecimal negative d 0 = .ofRatio negative d 1 := by
    have hzero : ¬ (d = 0 ∨ (0 : Int) + Binary64.digitCount d < -330) := by
      omega
    have hinfinite : ¬ 310 < (0 : Int) + Binary64.digitCount d := by
      omega
    have hpower : powTen 0 = (1, 1) := rfl
    simp only [Binary64.ofDecimal, if_neg hzero, if_neg hinfinite, hpower, Nat.mul_one]
  obtain ⟨v, -, hv, -, ⟨significand, exponent, hx, rfl⟩, -⟩ :=
    isValue_integers_mono negative false hpos le_rfl (le_powerOfTen h)
  have hsignificand : 0 < significand := Nat.pos_of_ne_zero fun hzero => by simp [hzero] at hv
  -- multiplying by one changes nothing
  rw [hdecimal, rounded, hx, Binary64.times_one (Binary64.canonical_ofRatio Nat.one_pos hx) hsignificand]

/-- A JSON integer is the same integer as a property, or the value nearest to it. -/
theorem ofJson?_integer {n : Int} (hlow : -(2 : Int) ^ 63 ≤ n) (hhigh : n < (2 : Int) ^ 64) :
    Value.ofJson? (.integer n) = some (Scalar.integer n).value := by
  unfold Value.ofJson? Scalar.value
  rw [Int64.toInt_minValue, Int64.toInt_maxValue]
  simp only [Int.le_sub_one_iff]
  split
  · rfl
  · have hfits : n.natAbs < 2 ^ 64 := by
      omega
    rw [ofDecimal_eq_rounded (n < 0) (by omega) hfits, gather_small hfits]
    rfl

/-- **The number of an integer below the limit** has the value of the integer. -/
theorem number?_integer {n : Int} (h : n.natAbs < integerLimit) :
    ∃ json, number? (n < 0) (decimalText n.natAbs) [] none = some json ∧
      Value.ofJson? json = some (Scalar.integer n).value := by
  by_cases hinteger : -(2 : Int) ^ 63 ≤ n ∧ n < (2 : Int) ^ 64
  · -- an integer of JSON; one that has no place for a sign is rounded only as a property
    refine ⟨.integer n, ?_, ofJson?_integer hinteger.1 hinteger.2⟩
    -- the sign is read apart from the digits
    rcases Int.lt_or_le n 0 with hneg | hpos
    · have hnumber := number?_negative (d := n.natAbs) (by omega) (by omega)
      have habs : -(n.natAbs : Int) = n := by
        omega
      rw [decide_eq_true hneg, hnumber, habs]
    · have hnumber := number?_unsigned (d := n.natAbs) (by omega)
      have habs : (n.natAbs : Int) = n := by
        omega
      rw [decide_eq_false (Int.not_lt.mpr hpos), hnumber, habs]
  · -- any other one is scaled as it is read
    have hleading := leading_decimalText n.natAbs
    rcases hgather : gather 0 (decimalText n.natAbs) with ⟨digits, left⟩
    rw [hgather] at hleading
    obtain ⟨significand, exponent, hx, -⟩ := exists_finite h (by omega) hleading
    have hscaled := scaled_of_isValue ((hleading.places_le h).trans (by decide)) ⟨_, _, hx, rfl⟩
    refine ⟨.real (rounded (n < 0) digits left.length), ?_, ?_⟩
    · rw [number?_scaled ?_ ?_ hgather, hscaled]
      · rfl
      · intro hsign
        have hpos := of_decide_eq_false hsign
        omega
      · intro hsign
        have hneg := of_decide_eq_true hsign
        omega
    · have hrange : ¬ (-(2 : Int) ^ 63 ≤ n ∧ n < (2 : Int) ^ 63) := by
        omega
      simp only [Value.ofJson?, Scalar.value, if_neg hrange, hgather]

/-- **The number of any other integer** is out of range. -/
theorem number?_refused {n : Int} (h : integerLimit ≤ n.natAbs) :
    number? (n < 0) (decimalText n.natAbs) [] none = none := by
  have hlarge : 2 ^ 64 ≤ n.natAbs := (lt_integerLimit le_rfl).le.trans h
  have hleading := leading_decimalText n.natAbs
  have hplaces : 0 < (gather 0 (decimalText n.natAbs)).2.length :=
    lt_of_lt_of_le (by decide) (hleading.le_places h)
  have hpos : 0 < (gather 0 (decimalText n.natAbs)).1 :=
    lt_of_lt_of_le (by decide) (hleading.digits_ge hplaces)
  rw [number?_scaled (fun _ => hlarge) (fun _ => by omega) rfl,
    scaled_refused hpos hleading.fits fun hpower b v => not_isValue_rounded hleading h hpower]
  rfl

/-- **What is read from a scalar** is what it gives. -/
theorem Scalar.gives_value {scalar : Scalar} (h : scalar.InRange) : scalar.Gives scalar.value := by
  cases scalar with
  | boolean b => exact .boolean b
  | integer n =>
    by_cases hrange : -(2 : Int) ^ 63 ≤ n ∧ n < (2 : Int) ^ 63
    · have hn : (Int64.ofInt n).toInt = n := Int64.toInt_ofInt_of_le hrange.1 hrange.2
      have hgives := Scalar.Gives.integer (Int64.ofInt n)
      rw [hn] at hgives
      simp only [Scalar.value, if_pos hrange]
      exact hgives
    · have hleading := leading_decimalText n.natAbs
      obtain ⟨significand, exponent, hx, hfar⟩ := exists_finite h (by omega) hleading
      simp only [Scalar.value, if_neg hrange, hx]
      exact .float (by omega) hleading hx hfar
  | string s => exact .string s

end RuleText.Json
