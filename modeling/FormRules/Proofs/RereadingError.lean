/-
This file bounds how far a double can be from what is read for it. Every step of the reader rounds, and the ratios of
the steps are multiplied.
-/

import FormRules.Proofs.Rereading

namespace FormRules

namespace Binary

variable {format : Format} {x y z : Binary format}

theorem amount_of_ofNat? (precise : 0 < format.precision) {count : Nat} (rounded : ofNat? format count = some x)
    {part : ℚ} (small : part < 1) (relative : 1 / 2 ^ format.precision ≤ part)
    (large : 1 / 2 ^ (format.lowest + 1) ≤ (count : ℚ) * part) : Apart (1 / (1 - part)) x.amount count := by
  have apart := apart_of_rounded precise Nat.one_pos rounded small relative (by simpa using large)
  simpa using apart

/-- The exact product of two numbers, as the quotient that is rounded. -/
theorem mul?_quotient (x y : Binary format) :
    ((x.size * y.size : Nat) : ℚ) / (twoTo (2 * format.lowest) : Nat) = x.amount * y.amount := by
  rw [amount, amount, cast_twoTo, Nat.cast_mul, two_mul, pow_add]
  field_simp

theorem div?_quotient (x y : Binary format) : (x.size : ℚ) / y.size = x.amount / y.amount := by
  rw [amount, amount, div_div_div_cancel_right₀ (by positivity)]

/-- A product is rounded from the exact one. -/
theorem amount_mul?_near (precise : 0 < format.precision) (product : x.mul? y = some z) :
    |z.amount - x.amount * y.amount| ≤
      max (x.amount * y.amount / 2 ^ format.precision) (1 / 2 ^ (format.lowest + 1)) := by
  have near := amount_near precise (twoTo_pos _) product
  rwa [mul?_quotient] at near

theorem negative_mul? (precise : 0 < format.precision) (product : x.mul? y = some z) :
    z.negative = xor x.negative y.negative :=
  ((ofQuotient?_eq_some_iff precise).1 product).1

theorem negative_div? (precise : 0 < format.precision) (quotient : x.div? y = some z) :
    z.negative = xor x.negative y.negative := by
  rw [div?] at quotient
  split at quotient
  · cases quotient
  · exact ((ofQuotient?_eq_some_iff precise).1 quotient).1

/-- A quotient is rounded from the exact one. -/
theorem amount_div?_near (precise : 0 < format.precision) (quotient : x.div? y = some z) :
    |z.amount - x.amount / y.amount| ≤
      max (x.amount / y.amount / 2 ^ format.precision) (1 / 2 ^ (format.lowest + 1)) := by
  rw [div?] at quotient
  split at quotient
  · cases quotient
  · rename_i notZero
    rw [isZero_iff] at notZero
    have near := amount_near precise (Nat.pos_of_ne_zero notZero) quotient
    rwa [div?_quotient] at near

end Binary

namespace Json

/-- What one rounding to fifty-three bits can change. -/
def ratio : ℚ :=
  1 / (1 - 1 / 2 ^ 53)

/-- What a rounding can change that leaves two bits less. -/
def coarseRatio : ℚ :=
  1 / (1 - 3 / 2 ^ 53)

theorem one_le_ratio : 1 ≤ ratio := by
  norm_num [ratio]

section Scaling

variable {x y z : Double} {exponent : Int} {factor value : ℚ}

/-- A natural number that is not zero is changed by one rounding. -/
theorem apart_of_ofNat? {count : Nat} (given : 0 < count) (found : Binary.ofNat? binary64 count = some y) :
    y.negative = false ∧ Apart ratio y.amount count := by
  refine ⟨((Binary.ofQuotient?_eq_some_iff (by decide)).1 found).1, ?_⟩
  have one : (1 : ℚ) ≤ count := by exact_mod_cast given
  apply Binary.amount_of_ofNat? (by decide) found (by norm_num) (by norm_num [binary64])
  calc (1 : ℚ) / 2 ^ (binary64.lowest + 1) ≤ 1 / 2 ^ 53 :=
        one_div_le_one_div_of_le (by positivity) (pow_le_pow_right₀ (by norm_num) (by decide))
    _ ≤ count * (1 / 2 ^ 53) := le_mul_of_one_le_left (by positivity) one

/-- One multiplication or division leaves a number that is rounded from one close to the scaled value. -/
theorem scaleBy?_near (sign : y.negative = false) (apart : Apart factor y.amount value) (atLeast : 1 ≤ factor)
    (positive : 0 < value) (small : exponent.natAbs ≤ largestPower) (scaled : scaleBy? y exponent = some z) :
    z.negative = false ∧ ∃ exact, 0 ≤ exact ∧ Apart (factor * ratio) exact (value * 10 ^ exponent) ∧
      |z.amount - exact| ≤ max (exact / 2 ^ binary64.precision) (1 / 2 ^ (binary64.lowest + 1)) := by
  rw [scaleBy?, if_pos small] at scaled
  have given := y.amount_nonneg
  split at scaled
  · rename_i up
    obtain ⟨power, found, product⟩ := Option.bind_eq_some_iff.1 scaled
    obtain ⟨powerSign, powerApart⟩ := apart_of_ofNat? (tenTo_pos _) found
    rw [cast_tenTo] at powerApart
    refine ⟨by rw [Binary.negative_mul? (by decide) product, sign, powerSign, Bool.xor_false],
      y.amount * power.amount, mul_nonneg given power.amount_nonneg, ?_,
      Binary.amount_mul?_near (by decide) product⟩
    have places : (10 : ℚ) ^ exponent = 10 ^ exponent.natAbs := by
      rw [← zpow_natCast, Int.natAbs_of_nonneg up]
    rw [places]
    exact apart.mul powerApart (by linarith) given positive.le power.amount_nonneg (by positivity)
  · rename_i down
    obtain ⟨power, found, quotient⟩ := Option.bind_eq_some_iff.1 scaled
    obtain ⟨powerSign, powerApart⟩ := apart_of_ofNat? (tenTo_pos _) found
    rw [cast_tenTo] at powerApart
    have powerPos := powerApart.pos one_le_ratio (by positivity)
    refine ⟨by rw [Binary.negative_div? (by decide) quotient, sign, powerSign, Bool.xor_false],
      y.amount / power.amount, div_nonneg given powerPos.le, ?_, Binary.amount_div?_near (by decide) quotient⟩
    have places : value * 10 ^ exponent = value / 10 ^ exponent.natAbs := by
      rw [show exponent = -(exponent.natAbs : ℤ) by omega, zpow_neg, zpow_natCast, Int.natAbs_neg,
        Int.natAbs_natCast, div_eq_mul_inv]
    rw [places]
    exact apart.div powerApart (by linarith) given positive.le powerPos (by positivity)

/-- The largest power of ten that is a double, and the range of doubles. -/
theorem ten_pow_largestPower_le : (10 : ℚ) ^ largestPower ≤ 2401 * 2 ^ 1012 :=
  calc (10 : ℚ) ^ largestPower = (10 ^ 77) ^ 4 := pow_mul 10 77 4
    _ ≤ (7 * 2 ^ 253) ^ 4 := pow_le_pow_left₀ (by norm_num) (by norm_num) 4
    _ = 7 ^ 4 * (2 ^ 253) ^ 4 := mul_pow 7 _ 4
    _ = 2401 * 2 ^ 1012 := by
        rw [← pow_mul]
        norm_num

/-- What is divided by the largest power of ten keeps all but two of its bits. -/
theorem apart_of_near_largestPower {exact : ℚ} (nonnegative : 0 ≤ exact) (one : 1 ≤ value)
    (apart : Apart (ratio * ratio) exact (value * 10 ^ (-largestPower : ℤ)))
    (near : |z.amount - exact| ≤ max (exact / 2 ^ binary64.precision) (1 / 2 ^ (binary64.lowest + 1))) :
    Apart coarseRatio z.amount exact := by
  have power : (0 : ℚ) < 10 ^ largestPower := by positivity
  have unitPos : (0 : ℚ) < 2 ^ 1012 := by positivity
  have least : 1 ≤ ratio * ratio * exact * (2401 * 2 ^ 1012) := by
    have close := apart.ge
    rw [zpow_neg, zpow_natCast, ← div_eq_mul_inv, div_le_iff₀ power] at close
    calc 1 ≤ value := one
      _ ≤ ratio * ratio * exact * 10 ^ largestPower := close
      _ ≤ ratio * ratio * exact * (2401 * 2 ^ 1012) :=
          mul_le_mul_of_nonneg_left ten_pow_largestPower_le
            (mul_nonneg (mul_self_nonneg ratio) nonnegative)
  have part : (1 : ℚ) / 2 ^ (binary64.lowest + 1) ≤ exact * (3 / 2 ^ 53) := by
    rw [show binary64.lowest + 1 = 63 + 1012 from rfl, pow_add, div_le_iff₀ (by positivity)]
    generalize (2 : ℚ) ^ 1012 = unit at least unitPos ⊢
    calc 1 ≤ ratio * ratio * exact * (2401 * unit) := least
      _ = ratio * ratio * 2401 * (exact * unit) := by ring
      _ ≤ 3072 * (exact * unit) :=
          mul_le_mul_of_nonneg_right (by norm_num [ratio]) (mul_nonneg nonnegative unitPos.le)
      _ = exact * (3 / 2 ^ 53) * (2 ^ 63 * unit) := by ring
  apply Apart.of_abs_sub_le nonnegative (by norm_num) (by norm_num)
  apply near.trans
  apply max_le _ part
  rw [div_eq_mul_one_div exact]
  exact mul_le_mul_of_nonneg_left (by norm_num [binary64]) nonnegative

/-- A small power is divided away in two steps. -/
theorem scaleBy?_of_lt (notZero : ¬ y.isZero = true) (down : exponent < -largestPower) :
    scaleBy? y exponent =
      (scaleBy? y (-largestPower : ℤ)).bind fun z => scaleBy? z (exponent + largestPower) := by
  have first : scaleBy? y (-largestPower : ℤ) = (powerOfTen? largestPower).bind y.div? := by
    rw [scaleBy?, if_pos (by decide), if_neg (by decide)]
    rfl
  have large : ¬ exponent.natAbs ≤ largestPower := by omega
  rw [scaleBy?, if_neg large, if_neg notZero, if_neg (by omega), first]

/-- However small the scale, few roundings are made. -/
theorem scaleBy?_near_any (sign : y.negative = false) (apart : Apart ratio y.amount value) (one : 1 ≤ value)
    (range : -616 ≤ exponent) (scaled : scaleBy? y exponent = some z) :
    z.negative = false ∧ ∃ exact, 0 ≤ exact ∧
      Apart (coarseRatio * (ratio * ratio) * ratio) exact (value * 10 ^ exponent) ∧
        |z.amount - exact| ≤ max (exact / 2 ^ binary64.precision) (1 / 2 ^ (binary64.lowest + 1)) := by
  have positive : 0 < value := by linarith
  by_cases small : exponent.natAbs ≤ largestPower
  · obtain ⟨zSign, exact, nonnegative, close, near⟩ :=
      scaleBy?_near sign apart one_le_ratio positive small scaled
    exact ⟨zSign, exact, nonnegative,
      close.mono (by norm_num [ratio, coarseRatio]) nonnegative (by positivity), near⟩
  · have notZero := Binary.not_isZero (apart.pos one_le_ratio positive)
    rcases Int.lt_or_le exponent 0 with down | up
    · rw [scaleBy?_of_lt notZero (by omega)] at scaled
      obtain ⟨w, first, again⟩ := Option.bind_eq_some_iff.1 scaled
      obtain ⟨wSign, exact, nonnegative, close, near⟩ :=
        scaleBy?_near sign apart one_le_ratio positive (by decide) first
      have coarse := (apart_of_near_largestPower nonnegative one close near).trans close
        (by norm_num [coarseRatio]) (by norm_num [ratio])
      have left : (exponent + largestPower).natAbs ≤ largestPower := by
        simp only [largestPower] at *
        omega
      obtain ⟨zSign, final, finalNonneg, finalClose, finalNear⟩ :=
        scaleBy?_near wSign coarse (by norm_num [ratio, coarseRatio]) (by positivity) left again
      refine ⟨zSign, final, finalNonneg, ?_, finalNear⟩
      rw [mul_assoc value, ← zpow_add₀ (by norm_num), neg_add_cancel_comm_assoc] at finalClose
      exact finalClose
    · rw [scaleBy?, if_neg small, if_neg notZero, if_pos up] at scaled
      cases scaled

theorem amount_le (x : Double) : x.amount ≤ (2 ^ 53 - 1) * x.place := by
  rw [Binary.amount_eq_place]
  apply mul_le_mul_of_nonneg_right _ x.place_pos.le
  have below : (x.mantissa : ℚ) + 1 ≤ (2 ^ 53 : Nat) := by exact_mod_cast x.mantissa_lt
  push_cast at below
  linarith

/-- What is read stays within eight last places of a double if it is rounded from a number that is close to the
decimal that was written. -/
theorem abs_sub_le_of_near {x : Double} {decimal exact : ℚ} (written : |decimal - x.amount| ≤ x.place / 2)
    (decimalNonneg : 0 ≤ decimal) (apart : Apart (coarseRatio * (ratio * ratio) * ratio) exact decimal)
    (near : |z.amount - exact| ≤ max (exact / 2 ^ binary64.precision) (1 / 2 ^ (binary64.lowest + 1))) :
    |z.amount - x.amount| ≤ 8 * x.place := by
  have place := x.place_pos
  have most := amount_le x
  have lowest : (1 : ℚ) / 2 ^ (binary64.lowest + 1) ≤ x.place / 2 := by
    rw [Binary.place, pow_succ, ← div_div, div_le_div_iff_of_pos_right two_pos,
      div_le_div_iff_of_pos_right (by positivity)]
    exact one_le_pow₀ (by norm_num)
  have few : decimal ≤ 2 ^ 53 * x.place := by
    have above := (abs_le.1 written).2
    linarith
  have steps : |exact - decimal| ≤ 61 / 10 * x.place :=
    calc |exact - decimal| ≤ (coarseRatio * (ratio * ratio) * ratio - 1) * decimal :=
          apart.abs_sub_le (by norm_num [ratio, coarseRatio]) decimalNonneg
      _ ≤ 61 / 10 / 2 ^ 53 * (2 ^ 53 * x.place) :=
          mul_le_mul (by norm_num [ratio, coarseRatio]) few decimalNonneg (by norm_num)
      _ = 61 / 10 * x.place := by ring
  have last : exact / 2 ^ binary64.precision ≤ 11 / 10 * x.place := by
    rw [div_le_iff₀ (by positivity)]
    have least := (abs_le.1 steps).2
    have whole : exact ≤ (2 ^ 53 + 61 / 10) * x.place := by linarith
    exact whole.trans (by norm_num [binary64]; linarith)
  have rounded : |z.amount - exact| ≤ 11 / 10 * x.place := near.trans (max_le last (by linarith))
  have total := abs_sub_le z.amount exact decimal
  have moved := abs_sub_le z.amount decimal x.amount
  linarith

end Scaling

section Reading

variable {x y z : Double}

theorem value_signed (negative : Bool) (sign : y.negative = false) :
    (signed negative y).negative = negative ∧ (signed negative y).amount = y.amount := by
  cases negative with
  | true =>
      refine ⟨?_, rfl⟩
      show (!y.negative) = true
      rw [sign]
      rfl
  | false => exact ⟨sign, rfl⟩

theorem digits_written_pos (given : 0 < x.mantissa) : 0 < (written (x.shortest .toEven)).digits := by
  have digits := Binary.digits_shortest_pos .toEven given
  rw [written]
  split
  · exact Nat.mul_pos digits (Nat.pow_pos (by decide))
  · exact digits

/-- The exponent that is written is not too small for the reader to scale by it in two steps. -/
theorem exponent_written_ge (x : Double) : -616 ≤ (written (x.shortest .toEven)).exponent := by
  have near := Binary.natAbs_magnitude_le .toEven Binary.within_binary64 x
  have few := Binary.digits_shortest_le .toEven x
  have length : (x.shortest .toEven).digitText.length ≤ 20 :=
    (Nat.length_toDigits_le_iff (by decide) (by decide)).2 (few.trans_lt (by decide))
  rw [Decimal.magnitude] at near
  rw [written]
  split
  · show (-616 : ℤ) ≤ -1
    decide
  · omega

/-- What is read for a double has its sign, and is at most eight last places away. -/
theorem abs_sub_le_of_double? (read : double? (ofDouble x) = some z) :
    z.negative = x.negative ∧ |z.value - x.value| ≤ 8 * x.place := by
  rcases Nat.eq_zero_or_pos x.mantissa with nothing | given
  · rw [double?_ofDouble_of_exactlyWritten (exactlyWritten_of_zero nothing)] at read
    cases read
    refine ⟨rfl, ?_⟩
    rw [sub_self, abs_zero]
    linarith [x.place_pos]
  · rw [double?_ofDouble] at read
    obtain ⟨y, digits, found⟩ := Option.bind_eq_some_iff.1 read
    obtain ⟨w, scaled, rfl⟩ := Option.map_eq_some_iff.1 found
    have some := digits_written_pos given
    obtain ⟨sign, apart⟩ := apart_of_ofNat? some digits
    obtain ⟨wSign, exact, -, close, near⟩ :=
      scaleBy?_near_any sign apart (by exact_mod_cast some) (exponent_written_ge x) scaled
    have value : ((written (x.shortest .toEven)).digits : ℚ) * 10 ^ (written (x.shortest .toEven)).exponent =
        (x.shortest .toEven).value := value_written _
    rw [value] at close
    have nonnegative : 0 ≤ (x.shortest .toEven).value := by
      rw [Decimal.value]
      positivity
    obtain ⟨sameSign, amount⟩ := value_signed x.negative wSign
    refine ⟨sameSign, ?_⟩
    rw [Binary.abs_value_sub_value sameSign, amount]
    exact abs_sub_le_of_near (Binary.abs_sub_shortest_le .toEven x) nonnegative close near

end Reading

end Json

end FormRules
