/-
This file shows that the shortest decimal of a number is rounded to that number. A decimal is if it lies in the
rounding interval of the number, and there is one that does and has few digits.
-/

import FormRules.Number.Shortest
import FormRules.Proofs.NumeralText

namespace FormRules

namespace Decimal

/-- The exact value of a decimal. -/
def value (x : Decimal) : ℚ :=
  x.digits * 10 ^ x.exponent

theorem denominator_pos (x : Decimal) : 0 < x.denominator :=
  tenTo_pos _

theorem numerator_div_denominator (x : Decimal) : (x.numerator : ℚ) / x.denominator = x.value :=
  Numeral.numerator_div_denominator ⟨false, x.digits, x.exponent⟩

section Comparison

variable {x : Decimal} {numerator denominator : Nat}

theorem mul_le_mul_iff (positive : 0 < denominator) :
    x.numerator * denominator ≤ numerator * x.denominator ↔ x.value ≤ numerator / denominator := by
  have scale : (0 : ℚ) < denominator := by exact_mod_cast positive
  have own : (0 : ℚ) < x.denominator := by exact_mod_cast x.denominator_pos
  rw [← numerator_div_denominator, div_le_div_iff₀ own scale]
  norm_cast

theorem mul_lt_mul_iff (positive : 0 < denominator) :
    x.numerator * denominator < numerator * x.denominator ↔ x.value < numerator / denominator := by
  have scale : (0 : ℚ) < denominator := by exact_mod_cast positive
  have own : (0 : ℚ) < x.denominator := by exact_mod_cast x.denominator_pos
  rw [← numerator_div_denominator, div_lt_div_iff₀ own scale]
  norm_cast

end Comparison

section Zeros

theorem value_dropZeros (bound : Nat) (x : Decimal) : (x.dropZeros bound).value = x.value := by
  induction bound generalizing x with
  | zero => rfl
  | succ bound inductionHypothesis =>
      rw [dropZeros]
      split
      · rename_i divides
        have digits : (x.digits : ℚ) = (x.digits / 10 : Nat) * 10 := by
          have : x.digits = x.digits / 10 * 10 := by omega
          exact_mod_cast this
        rw [inductionHypothesis, value, value, zpow_add_one₀ (by norm_num), digits]
        ring
      · rfl

theorem digits_dropZeros_le (bound : Nat) (x : Decimal) : (x.dropZeros bound).digits ≤ x.digits := by
  induction bound generalizing x with
  | zero => exact Nat.le_refl _
  | succ bound inductionHypothesis =>
      rw [dropZeros]
      split
      · exact (inductionHypothesis _).trans (Nat.div_le_self _ _)
      · exact Nat.le_refl _

theorem digits_dropZeros_pos (bound : Nat) {x : Decimal} (given : 0 < x.digits) :
    0 < (x.dropZeros bound).digits := by
  induction bound generalizing x with
  | zero => exact given
  | succ bound inductionHypothesis =>
      rw [dropZeros]
      split
      · exact inductionHypothesis (show 0 < x.digits / 10 by omega)
      · exact given

end Zeros

end Decimal

namespace RoundingInterval

section Magnitude

theorem lt_ten_pow_length (n : Nat) : n < 10 ^ (Nat.toDigits 10 n).length :=
  (Nat.length_toDigits_le_iff (by decide) Nat.length_toDigits_pos).1 (Nat.le_refl _)

theorem ten_pow_le {n : Nat} (positive : 0 < n) : 10 ^ ((Nat.toDigits 10 n).length - 1) ≤ n := by
  rcases Nat.eq_zero_or_pos ((Nat.toDigits 10 n).length - 1) with none | some
  · rw [none]
    exact positive
  · rw [← Nat.not_lt, ← Nat.length_toDigits_le_iff (by decide) some]
    omega

variable {interval : RoundingInterval}

/-- The number of digits of a natural number, as bounds on its value. -/
theorem length_bounds {n : Nat} (positive : 0 < n) :
    (10 : ℚ) ^ ((Nat.toDigits 10 n).length - 1 : ℤ) ≤ n ∧ (n : ℚ) < 10 ^ ((Nat.toDigits 10 n).length : ℤ) := by
  have length : 0 < (Nat.toDigits 10 n).length := Nat.length_toDigits_pos
  constructor
  · rw [show ((Nat.toDigits 10 n).length - 1 : ℤ) = ((Nat.toDigits 10 n).length - 1 : Nat) by omega, zpow_natCast]
    exact_mod_cast ten_pow_le positive
  · rw [zpow_natCast]
    exact_mod_cast lt_ten_pow_length n

/-- The magnitude is the exponent of the first digit. -/
theorem magnitude_bounds (positive : 0 < interval.value) (scale : 0 < interval.denominator) :
    (10 : ℚ) ^ interval.magnitude ≤ interval.value / interval.denominator ∧
      (interval.value : ℚ) / interval.denominator < 10 ^ (interval.magnitude + 1) := by
  obtain ⟨least, less⟩ := length_bounds positive
  obtain ⟨scaleLeast, scaleLess⟩ := length_bounds scale
  have scaleCast : (0 : ℚ) < interval.denominator := by exact_mod_cast scale
  have unit : ∀ exponent, (⟨1, exponent⟩ : Decimal).value = 10 ^ exponent := by simp [Decimal.value]
  rw [magnitude]
  generalize ((Nat.toDigits 10 interval.value).length : ℤ) = length at *
  generalize ((Nat.toDigits 10 interval.denominator).length : ℤ) = scaleLength at *
  have above : (interval.value : ℚ) / interval.denominator < 10 ^ (length - scaleLength + 1) := by
    rw [div_lt_iff₀ scaleCast]
    calc (interval.value : ℚ) < 10 ^ length := less
      _ = 10 ^ (length - scaleLength + 1) * 10 ^ (scaleLength - 1) := by
          rw [← zpow_add₀ (by norm_num)]
          congr 1
          ring
      _ ≤ 10 ^ (length - scaleLength + 1) * interval.denominator := by gcongr
  have below : (10 : ℚ) ^ (length - scaleLength - 1) ≤ interval.value / interval.denominator := by
    rw [le_div_iff₀ scaleCast]
    calc (10 : ℚ) ^ (length - scaleLength - 1) * interval.denominator
        ≤ 10 ^ (length - scaleLength - 1) * 10 ^ scaleLength := by gcongr
      _ = 10 ^ (length - 1) := by
          rw [← zpow_add₀ (by norm_num)]
          congr 1
          ring
      _ ≤ interval.value := least
  split
  · rename_i reached
    rw [Decimal.mul_le_mul_iff scale, unit] at reached
    exact ⟨reached, above⟩
  · rename_i missed
    rw [Decimal.mul_le_mul_iff scale, unit, not_le] at missed
    exact ⟨below, by rwa [sub_add_cancel]⟩

end Magnitude

section Search

variable {interval : RoundingInterval} {tie : Tie} {exponent : Int} {decimal : Decimal}

/-- What is found is one of the two neighbours, and in the interval. -/
theorem nearest?_eq_some (found : interval.nearest? tie exponent = some decimal) :
    interval.contains decimal = true ∧
      (decimal = (interval.neighbours exponent).1 ∨ decimal = (interval.neighbours exponent).2) := by
  have either : ∀ below above, interval.nearer tie below above = below ∨
      interval.nearer tie below above = above := by
    intro below above
    simp only [nearer]
    repeat' split
    all_goals simp
  simp only [nearest?] at found
  split at found
  · rename_i both other
    cases found
    rcases either (interval.neighbours exponent).1 (interval.neighbours exponent).2 with first | second
    · exact ⟨by rw [first]; exact both, .inl first⟩
    · exact ⟨by rw [second]; exact other, .inr second⟩
  · rename_i inside _
    cases found
    exact ⟨inside, .inl rfl⟩
  · rename_i _ inside
    cases found
    exact ⟨inside, .inr rfl⟩
  · cases found

/-- Decimals that are no further apart than the end of the interval is from the value cannot all miss it. -/
theorem exists_nearest? (least : interval.low ≤ interval.value) (scale : 0 < interval.denominator)
    (fine : (⟨1, exponent⟩ : Decimal).numerator * interval.denominator +
      interval.value * (⟨1, exponent⟩ : Decimal).denominator <
        interval.high * (⟨1, exponent⟩ : Decimal).denominator) :
    ∃ decimal, interval.nearest? tie exponent = some decimal := by
  have positive : 0 < (⟨1, exponent⟩ : Decimal).numerator * interval.denominator := by
    simp [Decimal.numerator, tenTo_pos, scale]
  have inside : interval.contains (interval.neighbours exponent).2 = true := by
    have point : (interval.neighbours exponent).2.numerator * interval.denominator =
        interval.value * (⟨1, exponent⟩ : Decimal).denominator /
            ((⟨1, exponent⟩ : Decimal).numerator * interval.denominator) *
          ((⟨1, exponent⟩ : Decimal).numerator * interval.denominator) +
            (⟨1, exponent⟩ : Decimal).numerator * interval.denominator := by
      simp only [neighbours, Decimal.numerator, Decimal.denominator]
      ring
    have place : (interval.neighbours exponent).2.denominator = (⟨1, exponent⟩ : Decimal).denominator := rfl
    have below := Nat.div_mul_le_self (interval.value * (⟨1, exponent⟩ : Decimal).denominator)
      ((⟨1, exponent⟩ : Decimal).numerator * interval.denominator)
    have above := Nat.lt_div_mul_add positive (a := interval.value * (⟨1, exponent⟩ : Decimal).denominator)
    have low := Nat.mul_le_mul_right (⟨1, exponent⟩ : Decimal).denominator least
    rw [contains, point, place]
    split <;> simp only [decide_eq_true_eq, Bool.and_eq_true] <;> omega
  rw [nearest?]
  dsimp only
  rw [inside]
  cases interval.contains (interval.neighbours exponent).1 with
  | true => exact ⟨_, rfl⟩
  | false => exact ⟨_, rfl⟩

/-- A neighbour has no more digits than there are places from the first digit of the value. -/
theorem digits_of_nearest? {count : Nat} (positive : 0 < interval.value) (scale : 0 < interval.denominator)
    (found : interval.nearest? tie (interval.magnitude - count) = some decimal) :
    decimal.digits ≤ 10 ^ (count + 1) := by
  generalize place : interval.magnitude - count = exponent at found
  have below : (interval.neighbours exponent).1.value ≤ interval.value / interval.denominator := by
    rw [← Decimal.mul_le_mul_iff scale]
    calc (interval.neighbours exponent).1.numerator * interval.denominator
        = interval.value * (⟨1, exponent⟩ : Decimal).denominator /
              ((⟨1, exponent⟩ : Decimal).numerator * interval.denominator) *
            ((⟨1, exponent⟩ : Decimal).numerator * interval.denominator) := by
          simp only [neighbours, Decimal.numerator, Decimal.denominator]
          ring
      _ ≤ interval.value * (interval.neighbours exponent).1.denominator := Nat.div_mul_le_self _ _
  have total := below.trans_lt (magnitude_bounds positive scale).2
  have few : (interval.neighbours exponent).1.digits < 10 ^ (count + 1) := by
    rw [show interval.magnitude + 1 = ((count + 1 : Nat) : ℤ) + exponent by push_cast; omega,
      zpow_add₀ (by norm_num), Decimal.value, zpow_natCast] at total
    have := lt_of_mul_lt_mul_right total (by positivity)
    exact_mod_cast this
  rcases (nearest?_eq_some found).2 with rfl | rfl
  · exact few.le
  · exact few

end Search

end RoundingInterval

/-- The magnitude of a decimal is the exponent of its first digit. -/
theorem Decimal.magnitude_bounds {decimal : Decimal} (given : 0 < decimal.digits) :
    (10 : ℚ) ^ decimal.magnitude ≤ decimal.value ∧ decimal.value < 10 ^ (decimal.magnitude + 1) := by
  obtain ⟨least, less⟩ := RoundingInterval.length_bounds given
  have some : 0 < decimal.digitText.length := Nat.length_toDigits_pos
  have first : decimal.magnitude = (decimal.digitText.length - 1 : ℤ) + decimal.exponent := by
    rw [Decimal.magnitude]
    omega
  have last : decimal.magnitude + 1 = (decimal.digitText.length : ℤ) + decimal.exponent := by omega
  rw [last, first, zpow_add₀ (by norm_num), zpow_add₀ (by norm_num), Decimal.value]
  exact ⟨mul_le_mul_of_nonneg_right least (by positivity), mul_lt_mul_of_pos_right less (by positivity)⟩

namespace Binary

variable {format : Format}

section Rounding

/-- The quotient `scaled / unit` is no further from the mantissa than half of a last place, or a quarter below a
power of two. An odd mantissa leaves the ends out. -/
structure Encloses (x : Binary format) (scaled unit : Nat) : Prop where
  low : 4 * x.mantissa * unit ≤ 4 * scaled + 2 * unit
  high : 4 * scaled ≤ (4 * x.mantissa + 2) * unit
  strict : x.mantissa % 2 = 1 →
    4 * x.mantissa * unit < 4 * scaled + 2 * unit ∧ 4 * scaled < (4 * x.mantissa + 2) * unit
  near : x.mantissa = twoTo (format.precision - 1) → 0 < x.exponent → 4 * x.mantissa * unit ≤ 4 * scaled + unit

theorem encloses_of_contains {x : Binary format} {decimal : Decimal} (given : 0 < x.mantissa)
    (inside : (RoundingInterval.of x).contains decimal = true) :
    x.Encloses (decimal.numerator * twoTo format.lowest) (decimal.denominator * twoTo x.exponent) := by
  have point : decimal.numerator * (4 * twoTo format.lowest) = 4 * (decimal.numerator * twoTo format.lowest) := by
    ring
  have top : (4 * x.mantissa + 2) * twoTo x.exponent * decimal.denominator =
      (4 * x.mantissa + 2) * (decimal.denominator * twoTo x.exponent) := by
    ring
  have bottom : ∀ part ≤ 2, (4 * x.mantissa - part) * twoTo x.exponent * decimal.denominator +
      part * (decimal.denominator * twoTo x.exponent) =
        4 * x.mantissa * (decimal.denominator * twoTo x.exponent) := by
    intro part small
    rw [Nat.mul_assoc, Nat.mul_comm (twoTo _), ← Nat.add_mul, Nat.sub_add_cancel (by omega)]
  have one := bottom 1 (by omega)
  have two := bottom 2 (by omega)
  simp only [RoundingInterval.contains, RoundingInterval.of, point, top] at inside
  generalize decimal.denominator * twoTo x.exponent = unit at *
  generalize decimal.numerator * twoTo format.lowest = scaled at *
  refine ⟨?_, ?_, ?_, ?_⟩ <;> split at inside <;> split at inside <;>
    simp only [decide_eq_true_eq, Bool.and_eq_true] at * <;> omega

variable {x : Binary format} {scaled unit denominator : Nat}

/-- In the last place of the number itself the quotient is rounded to the mantissa. -/
theorem Encloses.roundToEven_eq (encloses : x.Encloses scaled unit) (given : 0 < x.mantissa)
    (positive : 0 < unit) : roundToEven scaled unit = x.mantissa := by
  obtain ⟨low, high, strict, -⟩ := encloses
  obtain ⟨before, mantissa⟩ : ∃ before, x.mantissa = before + 1 := ⟨x.mantissa - 1, by omega⟩
  rw [mantissa] at low high strict ⊢
  simp only [Nat.add_mul, Nat.mul_add, Nat.mul_assoc, Nat.one_mul] at low high strict
  apply Nat.le_antisymm
  · rw [roundToEven_le_iff positive]
    simp only [Nat.add_mul, Nat.mul_add, Nat.mul_assoc, Nat.one_mul]
    omega
  · rw [Nat.succ_le_iff, ← Nat.not_le, roundToEven_le_iff positive]
    simp only [Nat.add_mul, Nat.mul_assoc, Nat.one_mul]
    omega

/-- Below a power of two the last place is half of that of the number, and the quotient is rounded to the double of
the mantissa. -/
theorem Encloses.roundToEven_eq_double (encloses : x.Encloses scaled (2 * unit)) (positive : 0 < unit)
    (bottom : x.mantissa = twoTo (format.precision - 1)) (scaledUp : 0 < x.exponent)
    (below : scaled < x.mantissa * (2 * unit)) : roundToEven scaled unit = 2 * x.mantissa := by
  have near := encloses.near bottom scaledUp
  obtain ⟨before, mantissa⟩ : ∃ before, x.mantissa = before + 1 :=
    ⟨x.mantissa - 1, by have := twoTo_pos (format.precision - 1); omega⟩
  rw [mantissa] at near below ⊢
  simp only [Nat.add_mul, Nat.mul_add, Nat.mul_assoc, Nat.one_mul, Nat.mul_left_comm _ 2] at near below
  apply Nat.le_antisymm
  · rw [roundToEven_le_iff positive]
    simp only [Nat.add_mul, Nat.mul_add, Nat.mul_assoc, Nat.one_mul]
    omega
  · rw [show 2 * (before + 1) = 2 * before + 1 + 1 by omega, Nat.succ_le_iff, ← Nat.not_le,
      roundToEven_le_iff positive]
    simp only [Nat.add_mul, Nat.mul_assoc, Nat.one_mul]
    omega

/-- The quotient has no more bits than the number. -/
theorem Encloses.exponentFor_le (encloses : x.Encloses scaled (denominator * twoTo x.exponent))
    (positive : 0 < denominator) : exponentFor format (scaled / denominator) ≤ x.exponent := by
  have unit := Nat.mul_pos positive (twoTo_pos x.exponent)
  have most : (x.mantissa + 1) * (denominator * twoTo x.exponent) ≤
      twoTo format.precision * (denominator * twoTo x.exponent) :=
    Nat.mul_le_mul_right _ x.mantissa_lt
  have high := encloses.high
  rw [exponentFor_le_iff, Nat.div_lt_iff_lt_mul positive, twoTo_add, Nat.mul_assoc,
    Nat.mul_comm (twoTo x.exponent)]
  simp only [Nat.add_mul, Nat.mul_assoc, Nat.one_mul] at most high
  omega

/-- The quotient has as many bits as the number unless it is just below a power of two. -/
theorem Encloses.exponentFor_cases (encloses : x.Encloses scaled (denominator * twoTo x.exponent))
    (precise : 0 < format.precision) (positive : 0 < denominator) :
    exponentFor format (scaled / denominator) = x.exponent ∨
      x.mantissa = twoTo (format.precision - 1) ∧
        exponentFor format (scaled / denominator) + 1 = x.exponent := by
  have atMost := encloses.exponentFor_le positive
  rcases Nat.lt_or_eq_of_le atMost with less | same
  · right
    obtain ⟨exponent, succeeds⟩ : ∃ exponent, x.exponent = exponent + 1 := ⟨x.exponent - 1, by omega⟩
    have normal := x.normal.resolve_left (by omega)
    have unit := Nat.mul_pos positive (twoTo_pos exponent)
    have doubled : denominator * twoTo x.exponent = 2 * (denominator * twoTo exponent) := by
      rw [succeeds, twoTo_succ, Nat.mul_left_comm]
    have room : ∀ {power}, exponentFor format (scaled / denominator) ≤ power →
        scaled < 2 * twoTo (format.precision - 1) * (denominator * twoTo power) := by
      intro power le
      rw [exponentFor_le_iff, Nat.div_lt_iff_lt_mul positive, twoTo_add, Nat.mul_assoc,
        Nat.mul_comm (twoTo power)] at le
      rwa [← twoTo_succ, Nat.sub_add_cancel precise]
    have bottom : x.mantissa = twoTo (format.precision - 1) := by
      have below := room (Nat.le_of_lt_succ (succeeds ▸ less))
      have low := encloses.low
      by_contra different
      have more : (twoTo (format.precision - 1) + 1) * (denominator * twoTo exponent) ≤
          x.mantissa * (denominator * twoTo exponent) :=
        Nat.mul_le_mul_right _ (by omega)
      rw [doubled] at low
      simp only [Nat.add_mul, Nat.mul_assoc, Nat.one_mul, Nat.mul_left_comm _ 2] at below low more
      omega
    refine ⟨bottom, ?_⟩
    by_contra lower
    obtain ⟨power, lowest⟩ : ∃ power, exponent = power + 1 := ⟨exponent - 1, by omega⟩
    have below := room (show exponentFor format (scaled / denominator) ≤ power by omega)
    have near := encloses.near bottom (by omega)
    have some : 1 * (denominator * twoTo power) ≤ twoTo (format.precision - 1) * (denominator * twoTo power) :=
      Nat.mul_le_mul_right _ (twoTo_pos _)
    rw [doubled, lowest, twoTo_succ, bottom] at near
    simp only [Nat.one_mul, Nat.mul_assoc, Nat.mul_left_comm _ 2] at below near some
    have quarter := Nat.mul_pos positive (twoTo_pos power)
    omega
  · exact .inl same

/-- What is in the rounding interval of a number is rounded to it. -/
theorem Encloses.ofQuotient?_eq {numerator : Nat}
    (encloses : x.Encloses (numerator * twoTo format.lowest) (denominator * twoTo x.exponent))
    (given : 0 < x.mantissa) (precise : 0 < format.precision) (positive : 0 < denominator) :
    ofQuotient? format x.negative numerator denominator = some x := by
  rw [ofQuotient?_eq_some_iff precise]
  refine ⟨rfl, ?_⟩
  rw [roundedSize]
  rcases encloses.exponentFor_cases precise positive with same | ⟨bottom, next⟩
  · rw [same, encloses.roundToEven_eq given (Nat.mul_pos positive (twoTo_pos _)), size]
  · have unit := Nat.mul_pos positive
      (twoTo_pos (exponentFor format (numerator * twoTo format.lowest / denominator)))
    have below := exponentFor_le_iff.1
      (Nat.le_refl (exponentFor format (numerator * twoTo format.lowest / denominator)))
    generalize exponentFor format (numerator * twoTo format.lowest / denominator) = exponent at *
    have doubled : denominator * twoTo x.exponent = 2 * (denominator * twoTo exponent) := by
      rw [← next, twoTo_succ, Nat.mul_left_comm]
    rw [doubled] at encloses
    rw [Nat.div_lt_iff_lt_mul positive, twoTo_add, Nat.mul_assoc, Nat.mul_comm (twoTo exponent),
      ← Nat.sub_add_cancel precise, twoTo_succ, ← bottom] at below
    rw [encloses.roundToEven_eq_double unit bottom (by omega) (by linarith), size, ← next, twoTo_succ]
    ring

end Rounding

section Shortest

variable {x : Binary format} (tie : Tie)

/-- A power of ten that exceeds the mantissas twice. -/
theorem two_mul_twoTo_le (precision : Nat) : 2 * twoTo precision ≤ 10 ^ (precision / 3 + 1) :=
  calc 2 * twoTo precision = 2 ^ (precision + 1) := (twoTo_succ precision).symm
    _ ≤ 2 ^ (3 * (precision / 3 + 1)) := Nat.pow_le_pow_right (by decide) (by omega)
    _ = 8 ^ (precision / 3 + 1) := Nat.pow_mul 2 3 _
    _ ≤ 10 ^ (precision / 3 + 1) := Nat.pow_le_pow_left (by decide) _

/-- The last of the exponents that are tried leaves the decimals close enough. -/
theorem exists_nearest?_last (given : 0 < x.mantissa) :
    ∃ decimal, (RoundingInterval.of x).nearest? tie
      ((RoundingInterval.of x).magnitude - (format.precision / 3 + 1 : Nat)) = some decimal := by
  have scale : 0 < (RoundingInterval.of x).denominator := Nat.mul_pos (by decide) (twoTo_pos _)
  have step := twoTo_pos x.exponent
  have positive : 0 < (RoundingInterval.of x).value := Nat.mul_pos (by omega) step
  have least : (RoundingInterval.of x).low ≤ (RoundingInterval.of x).value :=
    Nat.mul_le_mul_right _ (Nat.sub_le _ _)
  apply RoundingInterval.exists_nearest? least scale
  generalize place : (RoundingInterval.of x).magnitude - (format.precision / 3 + 1 : Nat) = exponent
  have fine : (⟨1, exponent⟩ : Decimal).value <
      ((2 * twoTo x.exponent : Nat) : ℚ) / (RoundingInterval.of x).denominator := by
    have first := (RoundingInterval.magnitude_bounds positive scale).1
    have scaleCast : (0 : ℚ) < (RoundingInterval.of x).denominator := by exact_mod_cast scale
    have whole : ((RoundingInterval.of x).value : ℚ) < 2 * twoTo format.precision * (2 * twoTo x.exponent : Nat) := by
      have below := Nat.mul_lt_mul_of_pos_right x.mantissa_lt step
      have : 4 * x.mantissa * twoTo x.exponent < 2 * twoTo format.precision * (2 * twoTo x.exponent) := by
        linarith
      exact_mod_cast this
    have count : (2 * twoTo format.precision : ℚ) ≤ 10 ^ (format.precision / 3 + 1) := by
      exact_mod_cast two_mul_twoTo_le format.precision
    have bits : (0 : ℚ) < 2 * twoTo format.precision := by
      have := twoTo_pos format.precision
      positivity
    rw [show (RoundingInterval.of x).magnitude = exponent + (format.precision / 3 + 1 : Nat) by omega,
      zpow_add₀ (by norm_num), zpow_natCast, le_div_iff₀ scaleCast] at first
    rw [Decimal.value, Nat.cast_one, one_mul, lt_div_iff₀ scaleCast]
    refine lt_of_mul_lt_mul_left ?_ bits.le
    calc 2 * (twoTo format.precision : ℚ) * (10 ^ exponent * (RoundingInterval.of x).denominator)
        ≤ 10 ^ (format.precision / 3 + 1) * (10 ^ exponent * (RoundingInterval.of x).denominator) := by gcongr
      _ = 10 ^ exponent * 10 ^ (format.precision / 3 + 1) * (RoundingInterval.of x).denominator := by ring
      _ ≤ (RoundingInterval.of x).value := first
      _ < 2 * twoTo format.precision * (2 * twoTo x.exponent : Nat) := whole
  rw [← Decimal.mul_lt_mul_iff scale] at fine
  have high : (RoundingInterval.of x).high = (RoundingInterval.of x).value + 2 * twoTo x.exponent := by
    simp only [RoundingInterval.of]
    ring
  rw [high, Nat.add_mul]
  omega

/-- Of a number that is not zero the shortest decimal is found in the interval, with few digits. -/
theorem exists_shortest (given : 0 < x.mantissa) :
    ∃ decimal : Decimal, (RoundingInterval.of x).contains decimal = true ∧
      decimal.digits ≤ 10 ^ (format.precision / 3 + 2) ∧
        x.shortest tie = decimal.dropZeros format.precision := by
  have notZero : x.isZero = false := by simpa [isZero] using Nat.pos_iff_ne_zero.1 given
  have scale : 0 < (RoundingInterval.of x).denominator := Nat.mul_pos (by decide) (twoTo_pos _)
  have positive : 0 < (RoundingInterval.of x).value := Nat.mul_pos (by omega) (twoTo_pos _)
  obtain ⟨last, lastFound⟩ := exists_nearest?_last tie given
  rcases found : (List.range (format.precision / 3 + 2)).findSome? fun count =>
      (RoundingInterval.of x).nearest? tie ((RoundingInterval.of x).magnitude - (count : Nat)) with _ | decimal
  · rw [List.findSome?_eq_none_iff] at found
    rw [found (format.precision / 3 + 1) (by simp)] at lastFound
    cases lastFound
  · refine ⟨decimal, ?_, ?_, ?_⟩
    · obtain ⟨count, -, near⟩ := List.exists_of_findSome?_eq_some found
      exact (RoundingInterval.nearest?_eq_some near).1
    · obtain ⟨count, member, near⟩ := List.exists_of_findSome?_eq_some found
      have within := List.mem_range.1 member
      exact (RoundingInterval.digits_of_nearest? positive scale near).trans
        (Nat.pow_le_pow_right (by decide) within)
    · simp only [shortest, notZero, found]
      rfl

/-- Rounding a numeral depends on its sign and its size. -/
theorem ofNumeral?_congr (precise : 0 < format.precision) {first second : Numeral}
    (sameSign : first.negative = second.negative) (sameSize : |first.value| = |second.value|) :
    ofNumeral? format first = ofNumeral? format second := by
  have positive : (first.denominator : ℚ) ≠ 0 := by exact_mod_cast first.denominator_pos.ne'
  have otherPositive : (second.denominator : ℚ) ≠ 0 := by exact_mod_cast second.denominator_pos.ne'
  rw [Numeral.abs_value, Numeral.abs_value, div_eq_div_iff positive otherPositive] at sameSize
  rw [ofNumeral?, ofNumeral?, sameSign]
  exact ofQuotient?_congr precise first.denominator_pos second.denominator_pos (by exact_mod_cast sameSize)

theorem eq_zero_of_mantissa (nothing : x.mantissa = 0) :
    x = zero x.negative := by
  have none : x.exponent = 0 := by
    rcases x.normal with lowest | normal
    · exact lowest
    · have := twoTo_pos (format.precision - 1)
      omega
  obtain ⟨negative, mantissa, exponent, _, _, _⟩ := x
  cases nothing
  cases none
  rfl

theorem shortest_of_zero (nothing : x.mantissa = 0) : x.shortest tie = ⟨0, 0⟩ := by
  simp [shortest, isZero, nothing]

theorem digits_shortest_pos (given : 0 < x.mantissa) : 0 < (x.shortest tie).digits := by
  obtain ⟨decimal, inside, -, shortest⟩ := exists_shortest tie given
  rw [shortest]
  apply Decimal.digits_dropZeros_pos
  have low := (encloses_of_contains given inside).low
  have unit := Nat.mul_pos decimal.denominator_pos (twoTo_pos x.exponent)
  have more := Nat.mul_le_mul_right (decimal.denominator * twoTo x.exponent) given
  by_contra none
  have : decimal.numerator = 0 := by simp [Decimal.numerator, Nat.eq_zero_of_not_pos none]
  rw [this, Nat.mul_assoc] at low
  omega

theorem digits_shortest_le (x : Binary format) : (x.shortest tie).digits ≤ 10 ^ (format.precision / 3 + 2) := by
  rcases Nat.eq_zero_or_pos x.mantissa with nothing | given
  · rw [shortest_of_zero tie nothing]
    exact Nat.zero_le _
  · obtain ⟨decimal, -, few, shortest⟩ := exists_shortest tie given
    rw [shortest]
    exact (Decimal.digits_dropZeros_le _ _).trans few

/-- The shortest decimal is rounded to the number that it was made for. -/
theorem ofNumeral?_shortest (precise : 0 < format.precision) (x : Binary format) :
    ofNumeral? format ⟨x.negative, (x.shortest tie).digits, (x.shortest tie).exponent⟩ = some x := by
  rcases Nat.eq_zero_or_pos x.mantissa with nothing | given
  · rw [shortest_of_zero tie nothing, ofNumeral?_of_zero precise, ← eq_zero_of_mantissa nothing]
  · obtain ⟨decimal, inside, -, shortest⟩ := exists_shortest tie given
    have value : (x.shortest tie).value = decimal.value := by rw [shortest, Decimal.value_dropZeros]
    calc ofNumeral? format ⟨x.negative, (x.shortest tie).digits, (x.shortest tie).exponent⟩
        = ofNumeral? format ⟨x.negative, decimal.digits, decimal.exponent⟩ := by
          refine ofNumeral?_congr precise (by rfl) ?_
          rw [abs_value_parts, abs_value_parts]
          exact value
      _ = some x := (encloses_of_contains given inside).ofQuotient?_eq given precise decimal.denominator_pos

/-- So is every other decimal of the same value. -/
theorem ofNumeral?_of_value_eq (precise : 0 < format.precision) {decimal : Decimal}
    (same : decimal.value = (x.shortest tie).value) :
    ofNumeral? format ⟨x.negative, decimal.digits, decimal.exponent⟩ = some x := by
  rw [← ofNumeral?_shortest tie precise x]
  refine ofNumeral?_congr precise (by rfl) ?_
  rw [abs_value_parts, abs_value_parts]
  exact same

/-- The first digit of a number is within the range of the format. -/
theorem natAbs_magnitude_le {reach : Nat} (within : Within format reach) (x : Binary format) :
    (x.shortest tie).magnitude.natAbs ≤ reach := by
  rcases Nat.eq_zero_or_pos x.mantissa with nothing | given
  · rw [shortest_of_zero tie nothing]
    exact Nat.zero_le _
  · obtain ⟨least, less⟩ := Decimal.magnitude_bounds (digits_shortest_pos tie given)
    have rounded := ofNumeral?_shortest tie within.precise x
    have size : |(⟨x.negative, (x.shortest tie).digits, (x.shortest tie).exponent⟩ : Numeral).value| =
        (x.shortest tie).value := abs_value_parts
    have small := (exists_ofNumeral?_iff within.precise).1 ⟨x, rounded⟩
    have notTiny : ¬ (x.shortest tie).value * (2 * 2 ^ format.lowest) ≤ 1 := by
      intro tiny
      rw [← size] at tiny
      rw [ofNumeral?_of_tiny within.precise tiny, Option.some.injEq] at rounded
      rw [← rounded] at given
      exact absurd given (Nat.lt_irrefl 0)
    rw [size] at small
    have high : (10 : ℚ) ^ (x.shortest tie).magnitude < 10 ^ (reach : ℤ) := by
      rw [zpow_natCast]
      exact least.trans_lt (small.trans_le within.limit_le)
    have nonnegative : 0 ≤ (x.shortest tie).value := (zpow_pos (by norm_num) _).le.trans least
    have low : (10 : ℚ) ^ (-reach : ℤ) < 10 ^ ((x.shortest tie).magnitude + 1) :=
      calc (10 : ℚ) ^ (-reach : ℤ) = 1 / 10 ^ reach := by rw [zpow_neg, zpow_natCast, one_div]
        _ < (x.shortest tie).value := by
            rw [div_lt_iff₀ (by positivity)]
            exact (not_le.1 notTiny).trans_le (mul_le_mul_of_nonneg_left within.lowest_le nonnegative)
        _ < 10 ^ ((x.shortest tie).magnitude + 1) := less
    have above := (zpow_lt_zpow_iff_right₀ (by norm_num : (1 : ℚ) < 10)).1 high
    have below := (zpow_lt_zpow_iff_right₀ (by norm_num : (1 : ℚ) < 10)).1 low
    omega

end Shortest

end Binary

end FormRules
