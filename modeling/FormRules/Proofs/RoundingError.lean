/-
This file bounds what rounding changes: a quotient by a small part of itself, or, if it is tiny, by half of the
smallest number. Several roundings in a row are bounded by the product of their ratios.
-/

import FormRules.Proofs.ShortestDecimal
import Mathlib.Tactic.LinearCombination

namespace FormRules

/-- Neither of two numbers is more than the given multiple of the other. -/
structure Apart (ratio first second : ℚ) : Prop where
  le : first ≤ ratio * second
  ge : second ≤ ratio * first

namespace Apart

variable {ratio otherRatio first second third fourth part : ℚ}

theorem of_abs_sub_le (secondNonneg : 0 ≤ second) (positive : 0 ≤ part) (small : part < 1)
    (near : |first - second| ≤ second * part) : Apart (1 / (1 - part)) first second := by
  obtain ⟨low, high⟩ := abs_le.1 near
  have rest : 0 < 1 - part := by linarith
  constructor
  · rw [one_div_mul_eq_div, le_div_iff₀ rest]
    have square := mul_nonneg secondNonneg (mul_nonneg positive positive)
    calc first * (1 - part) ≤ (second + second * part) * (1 - part) :=
          mul_le_mul_of_nonneg_right (by linarith) rest.le
      _ = second - second * (part * part) := by ring
      _ ≤ second := by linarith
  · rw [one_div_mul_eq_div, le_div_iff₀ rest]
    linarith

theorem mul (one : Apart ratio first second) (other : Apart otherRatio third fourth) (positive : 0 ≤ ratio)
    (firstNonneg : 0 ≤ first) (secondNonneg : 0 ≤ second) (thirdNonneg : 0 ≤ third) (fourthNonneg : 0 ≤ fourth) :
    Apart (ratio * otherRatio) (first * third) (second * fourth) := by
  constructor
  · calc first * third ≤ (ratio * second) * (otherRatio * fourth) :=
          mul_le_mul one.le other.le thirdNonneg (by positivity)
      _ = ratio * otherRatio * (second * fourth) := by ring
  · calc second * fourth ≤ (ratio * first) * (otherRatio * third) :=
          mul_le_mul one.ge other.ge fourthNonneg (by positivity)
      _ = ratio * otherRatio * (first * third) := by ring

theorem div (one : Apart ratio first second) (other : Apart otherRatio third fourth) (positive : 0 ≤ ratio)
    (firstNonneg : 0 ≤ first) (secondNonneg : 0 ≤ second) (thirdPos : 0 < third) (fourthPos : 0 < fourth) :
    Apart (ratio * otherRatio) (first / third) (second / fourth) := by
  constructor
  · rw [div_le_iff₀ thirdPos]
    calc first ≤ ratio * second := one.le
      _ = ratio * second / fourth * fourth := by field_simp
      _ ≤ ratio * second / fourth * (otherRatio * third) :=
          mul_le_mul_of_nonneg_left other.ge (by positivity)
      _ = ratio * otherRatio * (second / fourth) * third := by ring
  · rw [div_le_iff₀ fourthPos]
    calc second ≤ ratio * first := one.ge
      _ = ratio * first / third * third := by field_simp
      _ ≤ ratio * first / third * (otherRatio * fourth) :=
          mul_le_mul_of_nonneg_left other.le (by positivity)
      _ = ratio * otherRatio * (first / third) * fourth := by ring

theorem trans (one : Apart ratio first second) (other : Apart otherRatio second third) (positive : 0 ≤ ratio)
    (otherPositive : 0 ≤ otherRatio) : Apart (ratio * otherRatio) first third := by
  constructor
  · calc first ≤ ratio * second := one.le
      _ ≤ ratio * (otherRatio * third) := mul_le_mul_of_nonneg_left other.le positive
      _ = ratio * otherRatio * third := by ring
  · calc third ≤ otherRatio * second := other.ge
      _ ≤ otherRatio * (ratio * first) := mul_le_mul_of_nonneg_left one.ge otherPositive
      _ = ratio * otherRatio * first := by ring

theorem abs_sub_le (apart : Apart ratio first second) (atLeast : 1 ≤ ratio) (secondNonneg : 0 ≤ second) :
    |first - second| ≤ (ratio - 1) * second := by
  obtain ⟨le, ge⟩ := apart
  have more := mul_nonneg (sub_nonneg.2 atLeast) secondNonneg
  rw [abs_le]
  constructor
  · rcases le_total second first with above | below
    · linarith
    · have less := mul_le_mul_of_nonneg_left below (sub_nonneg.2 atLeast)
      linarith
  · linarith

theorem pos (apart : Apart ratio first second) (atLeast : 1 ≤ ratio) (positive : 0 < second) : 0 < first :=
  pos_of_mul_pos_right (positive.trans_le apart.ge) (by linarith)

theorem mono (apart : Apart ratio first second) (le : ratio ≤ otherRatio) (firstNonneg : 0 ≤ first)
    (secondNonneg : 0 ≤ second) : Apart otherRatio first second :=
  ⟨apart.le.trans (mul_le_mul_of_nonneg_right le secondNonneg),
    apart.ge.trans (mul_le_mul_of_nonneg_right le firstNonneg)⟩

end Apart

namespace Binary

variable {format : Format} {x y : Binary format} {numerator denominator : Nat} {negative : Bool}

/-- The size of a number as a fraction. -/
def amount (x : Binary format) : ℚ :=
  x.size / 2 ^ format.lowest

/-- What a change of the last place of the mantissa amounts to. -/
def place (x : Binary format) : ℚ :=
  2 ^ x.exponent / 2 ^ format.lowest

theorem amount_nonneg (x : Binary format) : 0 ≤ x.amount := by
  unfold amount
  positivity

theorem place_pos (x : Binary format) : 0 < x.place := by
  unfold place
  positivity

theorem not_isZero (given : 0 < x.amount) : ¬ x.isZero = true := by
  intro zero
  rw [amount, isZero_iff.1 zero, Nat.cast_zero, zero_div] at given
  exact lt_irrefl 0 given

/-- A number holds a natural number. -/
theorem amount_eq_iff {count : Nat} : x.amount = count ↔ x.size = count * twoTo format.lowest := by
  rw [amount, div_eq_iff (by positivity), ← cast_twoTo]
  norm_cast

theorem value_eq_amount (x : Binary format) : x.value = (if x.negative then -1 else 1) * x.amount :=
  value_eq x

theorem amount_eq_place (x : Binary format) : x.amount = x.mantissa * x.place := by
  rw [amount, place, size, Nat.cast_mul, cast_twoTo]
  ring

/-- Numbers of one sign are as far apart as their sizes. -/
theorem abs_value_sub_value (sameSign : x.negative = y.negative) : |x.value - y.value| = |x.amount - y.amount| := by
  rw [value_eq_amount, value_eq_amount, sameSign, ← mul_sub, abs_mul]
  split <;> simp

/-- Half of the last place that a quotient has is a small part of it, unless it is tiny. -/
theorem half_place_le (positive : 0 < denominator) :
    (2 : ℚ) ^ exponentFor format (numerator * twoTo format.lowest / denominator) / 2 ^ (format.lowest + 1) ≤
      max ((numerator : ℚ) / denominator / 2 ^ format.precision) (1 / 2 ^ (format.lowest + 1)) := by
  generalize chosen : exponentFor format (numerator * twoTo format.lowest / denominator) = exponent
  cases exponent with
  | zero =>
      rw [pow_zero]
      exact le_max_right _ _
  | succ exponent =>
      have large : ¬ exponentFor format (numerator * twoTo format.lowest / denominator) ≤ exponent := by omega
      rw [exponentFor_le_iff, Nat.not_lt, Nat.le_div_iff_mul_le positive] at large
      have scale : (0 : ℚ) < denominator := by exact_mod_cast positive
      have bits : (2 : ℚ) ^ format.precision * 2 ^ exponent * denominator ≤ numerator * 2 ^ format.lowest := by
        rw [← cast_twoTo, ← cast_twoTo, ← cast_twoTo, ← Nat.cast_mul, ← twoTo_add]
        exact_mod_cast large
      refine le_trans ?_ (le_max_left _ _)
      rw [div_div, div_le_div_iff₀ (by positivity) (by positivity), pow_succ, pow_succ]
      linarith

/-- Rounding changes a quotient by a small part of it, or by half of the smallest number. -/
theorem amount_near (precise : 0 < format.precision) (positive : 0 < denominator)
    (rounded : ofQuotient? format negative numerator denominator = some x) :
    |x.amount - numerator / denominator| ≤
      max ((numerator : ℚ) / denominator / 2 ^ format.precision) (1 / 2 ^ (format.lowest + 1)) := by
  obtain ⟨-, sized⟩ := (ofQuotient?_eq_some_iff precise).1 rounded
  refine le_trans ?_ (half_place_le positive)
  rw [roundedSize] at sized
  generalize exponentFor format (numerator * twoTo format.lowest / denominator) = exponent at *
  have unit := Nat.mul_pos positive (twoTo_pos exponent)
  have half := (roundToEven_half (numerator * twoTo format.lowest) unit).1
  generalize roundToEven (numerator * twoTo format.lowest) (denominator * twoTo exponent) = mantissa at *
  have scale : (0 : ℚ) < denominator := by exact_mod_cast positive
  have off : 2 * |(mantissa : ℚ) * (denominator * 2 ^ exponent) - numerator * 2 ^ format.lowest| ≤
      denominator * 2 ^ exponent := by
    rw [← cast_twoTo, ← cast_twoTo]
    exact_mod_cast half
  have apart : x.amount - numerator / denominator =
      (mantissa * (denominator * 2 ^ exponent) - numerator * 2 ^ format.lowest) /
        (denominator * 2 ^ format.lowest) := by
    rw [amount, sized, Nat.cast_mul, cast_twoTo]
    field_simp
  rw [apart, abs_div, abs_of_pos (by positivity : (0 : ℚ) < denominator * 2 ^ format.lowest),
    div_le_div_iff₀ (by positivity) (by positivity), pow_succ]
  have scaled := mul_le_mul_of_nonneg_right off (by positivity : (0 : ℚ) ≤ 2 ^ format.lowest)
  linarith

/-- A quotient that is not tiny is changed by a small part of itself. -/
theorem apart_of_rounded {part : ℚ} (precise : 0 < format.precision) (positive : 0 < denominator)
    (rounded : ofQuotient? format negative numerator denominator = some x) (small : part < 1)
    (relative : 1 / 2 ^ format.precision ≤ part)
    (large : 1 / 2 ^ (format.lowest + 1) ≤ (numerator : ℚ) / denominator * part) :
    Apart (1 / (1 - part)) x.amount (numerator / denominator) := by
  have nonnegative : (0 : ℚ) ≤ numerator / denominator := by positivity
  apply Apart.of_abs_sub_le nonnegative ((by positivity : (0 : ℚ) ≤ 1 / 2 ^ format.precision).trans relative) small
  apply (amount_near precise positive rounded).trans
  apply max_le _ large
  rw [div_eq_mul_one_div (_ / _)]
  exact mul_le_mul_of_nonneg_left relative nonnegative

/-- The shortest decimal differs from the number by half of a last place at most. -/
theorem abs_sub_shortest_le (tie : Tie) (x : Binary format) :
    |(x.shortest tie).value - x.amount| ≤ x.place / 2 := by
  rcases Nat.eq_zero_or_pos x.mantissa with nothing | given
  · have none : x.amount = 0 := by simp [amount, size, nothing]
    rw [shortest_of_zero tie nothing, none]
    simpa [Decimal.value] using (half_pos x.place_pos).le
  · obtain ⟨decimal, inside, -, shortest⟩ := exists_shortest tie given
    obtain ⟨low, high, -, -⟩ := encloses_of_contains given inside
    rw [shortest, Decimal.value_dropZeros, ← Decimal.numerator_div_denominator]
    have scale : (0 : ℚ) < decimal.denominator := by exact_mod_cast decimal.denominator_pos
    have lowest : (0 : ℚ) < 2 ^ format.lowest := by positivity
    have numerator : (decimal.numerator : ℚ) = decimal.numerator / decimal.denominator * decimal.denominator := by
      field_simp
    have amount : x.amount * 2 ^ format.lowest = x.mantissa * 2 ^ x.exponent := by
      rw [amount_eq_place, place]
      field_simp
    have place : x.place * 2 ^ format.lowest = 2 ^ x.exponent := by
      rw [place]
      field_simp
    have lowCast : 4 * (x.mantissa : ℚ) * (decimal.denominator * 2 ^ x.exponent) ≤
        4 * (decimal.numerator * 2 ^ format.lowest) + 2 * (decimal.denominator * 2 ^ x.exponent) := by
      rw [← cast_twoTo, ← cast_twoTo]
      exact_mod_cast low
    have highCast : 4 * (decimal.numerator * 2 ^ format.lowest : ℚ) ≤
        (4 * x.mantissa + 2) * (decimal.denominator * 2 ^ x.exponent) := by
      rw [← cast_twoTo, ← cast_twoTo]
      exact_mod_cast high
    rw [numerator] at lowCast highCast
    generalize (decimal.numerator : ℚ) / decimal.denominator = quotient at *
    rw [abs_le]
    constructor
    · refine le_of_mul_le_mul_right ?_ (mul_pos lowest scale)
      linear_combination lowCast / 4 + decimal.denominator * amount - decimal.denominator * place / 2
    · refine le_of_mul_le_mul_right ?_ (mul_pos lowest scale)
      linear_combination highCast / 4 - decimal.denominator * amount - decimal.denominator * place / 2

end Binary

end FormRules
