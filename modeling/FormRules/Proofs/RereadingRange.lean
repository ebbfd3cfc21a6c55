/-
This file shows that a double is always read from the digits that are written for it. The product that is rounded
stays below the limit of the format, though it may be larger than the double.
-/

import FormRules.Proofs.RereadingError

namespace FormRules

namespace Json

open Binary (limit ofQuotient? exists_ofQuotient?_iff_lt_limit)

section Limit

theorem limit_eq_mul : limit binary64 = (2 ^ 54 - 1) * 2 ^ 970 := by
  rw [Binary.limit_binary64, show 1024 = 54 + 970 from rfl, pow_add, sub_mul, one_mul]

theorem ten_pow_lt_limit {exponent : Nat} (small : exponent ≤ largestPower) : (10 : ℚ) ^ exponent < limit binary64 := by
  have unit : (0 : ℚ) < 2 ^ 970 := by positivity
  calc (10 : ℚ) ^ exponent ≤ 10 ^ largestPower := pow_le_pow_right₀ (by norm_num) small
    _ ≤ 2401 * 2 ^ 1012 := ten_pow_largestPower_le
    _ = 2401 * 2 ^ 42 * 2 ^ 970 := by rw [show 1012 = 42 + 970 from rfl, pow_add, mul_assoc]
    _ < (2 ^ 54 - 1) * 2 ^ 970 := mul_lt_mul_of_pos_right (by norm_num) unit
    _ = limit binary64 := limit_eq_mul.symm

theorem two_pow_lt_limit : (2 : ℚ) ^ 80 < limit binary64 := by
  have large : (2 : ℚ) ^ 80 ≤ 2 ^ 970 := pow_le_pow_right₀ (by norm_num) (by norm_num)
  rw [limit_eq_mul]
  generalize (2 : ℚ) ^ 970 = unit at *
  linarith

theorem exists_ofNat? {count : Nat} (few : (count : ℚ) ≤ 2 ^ 64) : ∃ y, Binary.ofNat? binary64 count = some y := by
  rw [Binary.ofNat?, exists_ofQuotient?_iff_lt_limit (by decide) Nat.one_pos, Nat.cast_one, div_one]
  calc (count : ℚ) ≤ 2 ^ 64 := few
    _ < 2 ^ 80 := by norm_num
    _ < limit binary64 := two_pow_lt_limit

theorem exists_powerOfTen? {exponent : Nat} (small : exponent ≤ largestPower) :
    ∃ y, powerOfTen? exponent = some y := by
  rw [powerOfTen?, Binary.ofNat?, exists_ofQuotient?_iff_lt_limit (by decide) Nat.one_pos, cast_tenTo, Nat.cast_one,
    div_one]
  exact ten_pow_lt_limit small

end Limit

section Scaling

variable {x y z : Double} {exponent : Int} {factor value : ℚ}

theorem exists_mul? (less : x.amount * y.amount < limit binary64) : ∃ z, x.mul? y = some z := by
  rw [Binary.mul?, exists_ofQuotient?_iff_lt_limit (by decide) (twoTo_pos _), Binary.mul?_quotient]
  exact less

theorem exists_div? (given : 0 < y.amount) (less : x.amount / y.amount < limit binary64) :
    ∃ z, x.div? y = some z := by
  have notZero := Binary.not_isZero given
  have some : 0 < y.size := Nat.pos_of_ne_zero (mt Binary.isZero_iff.2 notZero)
  rw [Binary.div?, if_neg notZero, exists_ofQuotient?_iff_lt_limit (by decide) some, Binary.div?_quotient]
  exact less

/-- A number can be multiplied by a power of ten if the product is below the limit. -/
theorem exists_scaleBy?_up (apart : Apart ratio y.amount value) (given : 0 < value)
    (up : 0 ≤ exponent) (small : exponent.natAbs ≤ largestPower)
    (less : ratio * ratio * (value * 10 ^ exponent) < limit binary64) : ∃ z, scaleBy? y exponent = some z := by
  obtain ⟨power, found⟩ := exists_powerOfTen? small
  obtain ⟨-, powerApart⟩ := apart_of_ofNat? (tenTo_pos _) found
  have places : (10 : ℚ) ^ exponent = tenTo exponent.natAbs := by
    rw [cast_tenTo, ← zpow_natCast, Int.natAbs_of_nonneg up]
  have product := apart.mul powerApart (by norm_num [ratio]) y.amount_nonneg given.le power.amount_nonneg
    (Nat.cast_nonneg _)
  rw [← places] at product
  rw [scaleBy?, if_pos small, if_pos up, found, Option.bind_some]
  exact exists_mul? (product.le.trans_lt less)

theorem amount_le_of_apart (apart : Apart ratio y.amount value) (few : value ≤ 2 ^ 64) : y.amount ≤ 2 ^ 70 :=
  calc y.amount ≤ ratio * value := apart.le
    _ ≤ ratio * 2 ^ 64 := mul_le_mul_of_nonneg_left few (by norm_num [ratio])
    _ ≤ 2 ^ 70 := by norm_num [ratio]

/-- A number can be divided by a power of ten. -/
theorem exists_scaleBy?_down (few : y.amount ≤ 2 ^ 70) (down : exponent < 0)
    (small : exponent.natAbs ≤ largestPower) : ∃ z, scaleBy? y exponent = some z := by
  obtain ⟨power, found⟩ := exists_powerOfTen? small
  obtain ⟨-, apart⟩ := apart_of_ofNat? (tenTo_pos _) found
  have whole : (1 : ℚ) ≤ tenTo exponent.natAbs := by exact_mod_cast tenTo_pos _
  have half : 1 / 2 ≤ power.amount := by
    have least := whole.trans apart.ge
    have small : ratio ≤ 2 := by norm_num [ratio]
    nlinarith [power.amount_nonneg]
  rw [scaleBy?, if_pos small, if_neg (by omega), found, Option.bind_some]
  apply exists_div? (by linarith)
  calc y.amount / power.amount ≤ 2 ^ 70 / (1 / 2) := div_le_div₀ (by norm_num) few (by norm_num) half
    _ < 2 ^ 80 := by norm_num
    _ < limit binary64 := two_pow_lt_limit

/-- A number that is not tiny can be divided by a power of ten in two steps. -/
theorem exists_scaleBy?_twice (sign : y.negative = false) (apart : Apart ratio y.amount value) (one : 1 ≤ value)
    (few : value ≤ 2 ^ 64) (range : -616 ≤ exponent) (down : exponent < -largestPower) :
    ∃ z, scaleBy? y exponent = some z := by
  have positive : 0 < value := by linarith
  obtain ⟨w, divided⟩ : ∃ w, scaleBy? y (-largestPower : ℤ) = some w :=
    exists_scaleBy?_down (amount_le_of_apart apart few) (by decide) (by decide)
  obtain ⟨-, exact, nonnegative, close, near⟩ := scaleBy?_near sign apart one_le_ratio positive (by decide) divided
  have coarse := (apart_of_near_largestPower nonnegative one close near).trans close
    (by norm_num [coarseRatio]) (by norm_num [ratio])
  have small : value * 10 ^ (-largestPower : ℤ) ≤ 2 ^ 64 := by
    have power : (10 : ℚ) ^ (-largestPower : ℤ) ≤ 1 := zpow_le_one_of_nonpos₀ (by norm_num) (by decide)
    exact (mul_le_of_le_one_right positive.le power).trans few
  have wFew : w.amount ≤ 2 ^ 70 :=
    calc w.amount ≤ coarseRatio * (ratio * ratio) * (value * 10 ^ (-largestPower : ℤ)) := coarse.le
      _ ≤ coarseRatio * (ratio * ratio) * 2 ^ 64 :=
          mul_le_mul_of_nonneg_left small (by norm_num [ratio, coarseRatio])
      _ ≤ 2 ^ 70 := by norm_num [ratio, coarseRatio]
  rw [scaleBy?_of_lt (Binary.not_isZero (apart.pos one_le_ratio positive)) down, divided, Option.bind_some]
  exact exists_scaleBy?_down wFew (by omega) (by simp only [largestPower] at *; omega)

end Scaling

section Reading

variable {x : Double} {decimal : ℚ}

theorem place_le {exponent : Nat} (small : x.exponent ≤ exponent + 1074) : x.place ≤ 2 ^ exponent := by
  rw [Binary.place, div_le_iff₀ (by positivity), ← pow_add]
  exact pow_le_pow_right₀ (by norm_num) small

/-- All but the three largest doubles leave room for the two roundings before the last one. -/
theorem product_lt_limit (written : |decimal - x.amount| ≤ x.place / 2)
    (room : x.exponent < 2045 ∨ x.mantissa + 4 ≤ 2 ^ 53) : ratio * ratio * decimal < limit binary64 := by
  have above := (abs_le.1 written).2
  have positive : (0 : ℚ) < 2 ^ 970 := by positivity
  have factor : 0 ≤ ratio * ratio := mul_self_nonneg ratio
  rw [limit_eq_mul]
  rcases room with lower | below
  · have place : x.place ≤ 2 ^ 970 := place_le (by omega)
    have most := amount_le x
    generalize (2 : ℚ) ^ 970 = unit at *
    calc ratio * ratio * decimal ≤ ratio * ratio * (2 ^ 53 * unit) :=
          mul_le_mul_of_nonneg_left (by linarith) factor
      _ = ratio * ratio * 2 ^ 53 * unit := by ring
      _ < (2 ^ 54 - 1) * unit := mul_lt_mul_of_pos_right (by norm_num [ratio]) positive
  · have place : x.place ≤ 2 ^ 971 := place_le x.exponent_le
    rw [pow_succ] at place
    have most : (x.mantissa : ℚ) + 4 ≤ 2 ^ 53 := by exact_mod_cast below
    have amount := mul_le_mul_of_nonneg_right most x.place_pos.le
    rw [add_mul, ← Binary.amount_eq_place] at amount
    generalize (2 : ℚ) ^ 970 = unit at *
    calc ratio * ratio * decimal ≤ ratio * ratio * ((2 ^ 54 - 7) * unit) :=
          mul_le_mul_of_nonneg_left (by linarith) factor
      _ = ratio * ratio * (2 ^ 54 - 7) * unit := by ring
      _ < (2 ^ 54 - 1) * unit := mul_lt_mul_of_pos_right (by norm_num [ratio]) positive

/-- The three largest doubles are read as well. -/
theorem exists_double?_of_largest (top : x.exponent = 2045) (large : 2 ^ 53 < x.mantissa + 4) :
    ∃ z, double? (ofDouble x) = some z := by
  have largest : ∀ negative, (double? (ofDouble
      ⟨negative, 2 ^ 53 - 1, 2045, by decide, by decide, by decide⟩)).isSome = true := by decide +kernel
  have second : ∀ negative, (double? (ofDouble
      ⟨negative, 2 ^ 53 - 2, 2045, by decide, by decide, by decide⟩)).isSome = true := by decide +kernel
  have third : ∀ negative, (double? (ofDouble
      ⟨negative, 2 ^ 53 - 3, 2045, by decide, by decide, by decide⟩)).isSome = true := by decide +kernel
  obtain ⟨negative, mantissa, exponent, less, le, normal⟩ := x
  simp only at top large
  subst top
  have few : mantissa < 2 ^ 53 := less
  rw [← Option.isSome_iff_exists]
  obtain rfl | rfl | rfl : mantissa = 2 ^ 53 - 1 ∨ mantissa = 2 ^ 53 - 2 ∨ mantissa = 2 ^ 53 - 3 := by omega
  · exact largest negative
  · exact second negative
  · exact third negative

/-- The shortest decimals are in the range of doubles as well. -/
theorem value_shortest_lt (x : Double) : (x.shortest .toEven).value < 10 ^ (309 : ℤ) := by
  have near := (abs_le.1 (Binary.abs_sub_shortest_le .toEven x)).2
  have most := amount_le x
  calc (x.shortest .toEven).value ≤ 2 ^ 53 * x.place := by linarith [x.place_pos]
    _ ≤ 2 ^ 53 * 2 ^ 971 := mul_le_mul_of_nonneg_left (place_le x.exponent_le) (by positivity)
    _ = (2 ^ 256) ^ 4 := by rw [← pow_add, ← pow_mul]
    _ ≤ (12 * 10 ^ 76) ^ 4 := pow_le_pow_left₀ (by norm_num) (by norm_num) 4
    _ = 20736 * 10 ^ 304 := by
        rw [mul_pow, ← pow_mul]
        norm_num
    _ < 10 ^ 5 * 10 ^ 304 := mul_lt_mul_of_pos_right (by norm_num) (by positivity)
    _ = 10 ^ (309 : ℤ) := by
        rw [← pow_add]
        rfl

/-- The exponent that is written is not too large for one multiplication. -/
theorem exponent_written_le (given : 0 < x.mantissa) :
    (written (x.shortest .toEven)).exponent ≤ largestPower := by
  have some : (1 : ℚ) ≤ (written (x.shortest .toEven)).digits := by exact_mod_cast digits_written_pos given
  have whole : (10 : ℚ) ^ (written (x.shortest .toEven)).exponent < 10 ^ (309 : ℤ) :=
    calc (10 : ℚ) ^ (written (x.shortest .toEven)).exponent
        ≤ (written (x.shortest .toEven)).value := le_mul_of_one_le_left (by positivity) some
      _ = (x.shortest .toEven).value := value_written _
      _ < 10 ^ (309 : ℤ) := value_shortest_lt x
  exact Int.lt_add_one_iff.1 ((zpow_lt_zpow_iff_right₀ (by norm_num)).1 whole)

/-- A double is read from what is written for every double. -/
theorem exists_double? (x : Double) : ∃ z, double? (ofDouble x) = some z := by
  rcases Nat.eq_zero_or_pos x.mantissa with nothing | given
  · exact ⟨x, double?_ofDouble_of_exactlyWritten (exactlyWritten_of_zero nothing)⟩
  by_cases room : x.exponent < 2045 ∨ x.mantissa + 4 ≤ 2 ^ 53
  · have value : ((written (x.shortest .toEven)).digits : ℚ) * 10 ^ (written (x.shortest .toEven)).exponent =
        (x.shortest .toEven).value := value_written _
    have less := product_lt_limit (Binary.abs_sub_shortest_le .toEven x) room
    rw [← value] at less
    have some := digits_written_pos given
    have few := digits_written_lt x
    have least := exponent_written_ge x
    have most := exponent_written_le given
    rw [double?_ofDouble]
    generalize written (x.shortest .toEven) = decimal at *
    have fewCast : (decimal.digits : ℚ) ≤ 2 ^ 64 := by exact_mod_cast few.le
    obtain ⟨y, digits⟩ := exists_ofNat? fewCast
    obtain ⟨sign, apart⟩ := apart_of_ofNat? some digits
    have scaled : ∃ z, scaleBy? y decimal.exponent = Option.some z := by
      rcases Int.lt_or_le decimal.exponent 0 with down | up
      · by_cases small : decimal.exponent.natAbs ≤ largestPower
        · exact exists_scaleBy?_down (amount_le_of_apart apart fewCast) down small
        · exact exists_scaleBy?_twice sign apart (by exact_mod_cast some) fewCast least
            (by simp only [largestPower] at *; omega)
      · exact exists_scaleBy?_up apart (by exact_mod_cast some) up (by omega) less
    obtain ⟨z, scaled⟩ := scaled
    rw [digits, Option.bind_some, scaled]
    exact ⟨_, rfl⟩
  · obtain ⟨top, large⟩ := not_or.1 room
    have le : x.exponent ≤ 2045 := x.exponent_le
    exact exists_double?_of_largest (by omega) (by omega)

end Reading

end Json

end FormRules
