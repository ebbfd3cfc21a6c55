/-
This file tells from its size whether a quotient can be rounded to a number of a format. What one format can
hold, a format with more room can hold too; so every numeric kind has only texts that are numbers for the
bounds.
-/

import FormRules.Proofs.Rounding

namespace FormRules

namespace Binary

variable {format : Format} {size numerator denominator exponent : Nat} {negative : Bool}

/-- The exponent is the least one with which the size has no more bits than a mantissa. -/
theorem exponentFor_le_iff :
    exponentFor format size ≤ exponent ↔ size < twoTo (format.precision + exponent) := by
  have power : ∀ count, twoTo count = 2 ^ count := fun _ => rfl
  rw [exponentFor, power, power]
  by_cases small : size < 2 ^ format.precision
  · have below : size < 2 ^ (format.precision + exponent) :=
      small.trans_le (Nat.pow_le_pow_right (by decide) (Nat.le_add_right _ _))
    simp [small, below]
  · have positive : size ≠ 0 := by
      have := Nat.two_pow_pos format.precision
      omega
    rw [if_neg small, ← Nat.log2_lt positive]
    omega

theorem roundToEven_le (numerator denominator : Nat) :
    roundToEven numerator denominator ≤ numerator / denominator + 1 := by
  simp only [roundToEven]
  split <;> omega

theorem le_roundToEven (numerator denominator : Nat) :
    numerator / denominator ≤ roundToEven numerator denominator := by
  simp only [roundToEven]
  split <;> omega

/-- Rounding leaves as many bits as a mantissa has, or else the next power of two. -/
theorem roundToEven_exponentFor_le :
    roundToEven size (denominator * twoTo (exponentFor format (size / denominator))) ≤
      twoTo format.precision := by
  have below := exponentFor_le_iff.1 (Nat.le_refl (exponentFor format (size / denominator)))
  have quotient : size / (denominator * twoTo (exponentFor format (size / denominator))) <
      twoTo format.precision := by
    rw [← Nat.div_div_eq_div_mul, Nat.div_lt_iff_lt_mul (twoTo_pos _), ← twoTo_add]
    exact below
  exact (roundToEven_le _ _).trans quotient

/-- A size is scaled down no further than to the bits that a mantissa has. -/
theorem le_roundToEven_exponentFor (precise : 0 < format.precision)
    (scaled : exponentFor format (size / denominator) ≠ 0) :
    twoTo (format.precision - 1) ≤
      roundToEven size (denominator * twoTo (exponentFor format (size / denominator))) := by
  generalize chosen : exponentFor format (size / denominator) = exponent at scaled ⊢
  have large : ¬ exponentFor format (size / denominator) ≤ exponent - 1 := by omega
  rw [exponentFor_le_iff, Nat.not_lt] at large
  have shift : format.precision + (exponent - 1) = format.precision - 1 + exponent := by omega
  have quotient : twoTo (format.precision - 1) ≤ size / (denominator * twoTo exponent) := by
    rw [← Nat.div_div_eq_div_mul, Nat.le_div_iff_mul_le (twoTo_pos _), ← twoTo_add, ← shift]
    exact large
  exact quotient.trans (le_roundToEven _ _)

theorem exists_ofParts? {mantissa : Nat} (below : mantissa < twoTo format.precision)
    (within : exponent ≤ format.top)
    (normal : exponent = 0 ∨ twoTo (format.precision - 1) ≤ mantissa) :
    ∃ x : Binary format, ofParts? negative mantissa exponent = some x :=
  ⟨_, dif_pos ⟨below, within, normal⟩⟩

theorem exponent_le_of_ofParts? {mantissa : Nat} {x : Binary format}
    (made : ofParts? negative mantissa exponent = some x) : exponent ≤ format.top := by
  unfold ofParts? at made
  split at made
  · rename_i fits
    exact fits.2.1
  · cases made

/-- A quotient below a power of two is rounded to some number if there is room for the power. -/
theorem exists_ofQuotient?_of_lt {power : Nat} (precise : 0 < format.precision)
    (coarse : format.precision ≤ power + format.lowest)
    (room : power + format.lowest < format.precision + format.top)
    (small : numerator < twoTo power * denominator) :
    ∃ x, ofQuotient? format negative numerator denominator = some x := by
  obtain ⟨exponent, aligned⟩ := Nat.exists_eq_add_of_le coarse
  have positive : 0 < denominator := by
    rcases Nat.eq_zero_or_pos denominator with zero | positive
    · simp [zero] at small
    · exact positive
  have below : numerator * twoTo format.lowest / denominator < twoTo (format.precision + exponent) := by
    rw [Nat.div_lt_iff_lt_mul positive, ← aligned, twoTo_add, Nat.mul_right_comm]
    exact Nat.mul_lt_mul_of_pos_right small (twoTo_pos _)
  have scaled : exponentFor format (numerator * twoTo format.lowest / denominator) < format.top :=
    (exponentFor_le_iff.2 below).trans_lt (by omega)
  have halved : twoTo (format.precision - 1) < twoTo format.precision :=
    Nat.pow_lt_pow_right (by decide) (by omega)
  simp only [ofQuotient?]
  split
  · exact exists_ofParts? halved scaled (.inr (Nat.le_refl _))
  · rename_i notFull
    have fits := Nat.lt_of_le_of_ne roundToEven_exponentFor_le notFull
    apply exists_ofParts? fits scaled.le
    by_cases unscaled : exponentFor format (numerator * twoTo format.lowest / denominator) = 0
    · exact .inl unscaled
    · exact .inr (le_roundToEven_exponentFor precise unscaled)

/-- What is rounded to a number is below the power of two that ends the format. -/
theorem lt_of_ofQuotient? {power : Nat} {x : Binary format} (positive : 0 < denominator)
    (aligned : power + format.lowest = format.precision + format.top)
    (rounded : ofQuotient? format negative numerator denominator = some x) :
    numerator < twoTo power * denominator := by
  have scaled : exponentFor format (numerator * twoTo format.lowest / denominator) ≤ format.top := by
    simp only [ofQuotient?] at rounded
    split at rounded
    · exact (Nat.le_succ _).trans (exponent_le_of_ofParts? rounded)
    · exact exponent_le_of_ofParts? rounded
  rw [exponentFor_le_iff, ← aligned, Nat.div_lt_iff_lt_mul positive, twoTo_add,
    Nat.mul_right_comm] at scaled
  exact Nat.lt_of_mul_lt_mul_right scaled

/-- What single precision can hold, double precision can hold too. -/
theorem exists_read?_binary64_of_binary32 {text : List Char} {x : Binary binary32}
    (read : Binary.read? binary32 text = some x) : ∃ y, Binary.read? binary64 text = some y := by
  obtain ⟨numeral, spelled, rounded⟩ := Option.bind_eq_some_iff.1 read
  have small : numeral.numerator < twoTo 128 * numeral.denominator :=
    lt_of_ofQuotient? (tenTo_pos _) (by decide) rounded
  obtain ⟨y, rounded⟩ : ∃ y, ofQuotient? binary64 numeral.negative _ _ = some y :=
    exists_ofQuotient?_of_lt (by decide) (by decide) (by decide) small
  exact ⟨y, Option.bind_eq_some_iff.2 ⟨numeral, spelled, rounded⟩⟩

end Binary

namespace Whole

/-- A whole number is a numeral without a point and an exponent. -/
theorem numeral_of_read? {text : List Char} {number : Int} (read : Whole.read? text = some number) :
    ∃ numeral, Numeral.read? text = some numeral ∧ numeral.digits = number.natAbs ∧
      numeral.exponent = 0 := by
  rcases sign : Numeral.readSign text with ⟨negative, rest⟩
  rcases run : Text.leadingDigits rest with ⟨digits, after⟩
  simp only [Whole.read?, sign, run] at read
  split at read
  · cases read
  · rename_i complete
    obtain ⟨some, rfl⟩ : digits.isEmpty = false ∧ after = [] := by simpa using complete
    refine ⟨⟨negative, Text.numberOfDigits 10 digits, 0⟩, ?_, ?_, rfl⟩
    · simp [Numeral.read?, sign, run, some, Numeral.readExponent]
    · cases read
      cases negative <;> simp

/-- A whole number of thirty-two bits is a number of every format that has room for its size. -/
theorem exists_read?_of_fits32 {format : Format} (precise : 0 < format.precision)
    (coarse : format.precision ≤ 32 + format.lowest)
    (room : 32 + format.lowest < format.precision + format.top) {text : List Char} (fits : fits32 text = true) :
    ∃ x, Binary.read? format text = some x := by
  unfold fits32 at fits
  split at fits
  · rename_i number read
    obtain ⟨numeral, spelled, size, unscaled⟩ := numeral_of_read? read
    have bounded : numeral.digits < twoTo 32 := by
      have power : twoTo 32 = 4294967296 := by decide
      simp only [Bool.and_eq_true, decide_eq_true_eq] at fits
      omega
    have small : numeral.numerator < twoTo 32 * numeral.denominator := by
      simpa [Numeral.numerator, Numeral.denominator, unscaled] using bounded
    obtain ⟨x, rounded⟩ : ∃ x, Binary.ofQuotient? format numeral.negative _ _ = some x :=
      Binary.exists_ofQuotient?_of_lt precise coarse room small
    exact ⟨x, Option.bind_eq_some_iff.2 ⟨numeral, spelled, rounded⟩⟩
  · cases fits

end Whole

/-- A text of a numeric kind is a number for the bounds. -/
theorem Kind.exists_numberOfText?_of_accepts {kind : Kind} {text : String}
    (numeric : kind.isNumeric = true) (accepted : kind.accepts text = true) :
    ∃ x, Value.numberOfText? text = some x := by
  simp only [accepts] at accepted
  split at accepted
  · cases kind <;> simp_all [isNumeric]
  · cases kind with
    | double => exact Option.isSome_iff_exists.1 accepted
    | float =>
        obtain ⟨x, read⟩ := Option.isSome_iff_exists.1 accepted
        exact Binary.exists_read?_binary64_of_binary32 read
    | integer => exact Whole.exists_read?_of_fits32 (by decide) (by decide) (by decide) accepted
    | boolean => cases numeric
    | string => cases numeric

end FormRules
