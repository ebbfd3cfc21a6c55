/-
This file gives numerals and the numbers of a format their exact values. A numeral is rounded to the nearest
number of the format, numerals that are larger are rounded to numbers that are no smaller, and the numerals that
are rounded to some number are those within the range of the format.
-/

import FormRules.Proofs.Nearest
import Mathlib.Algebra.Order.Field.Basic
import Mathlib.Data.Rat.Cast.Order
import Mathlib.Tactic.FieldSimp
import Mathlib.Tactic.NormNum
import Mathlib.Tactic.Positivity

namespace FormRules

@[simp] theorem cast_twoTo (exponent : Nat) : ((twoTo exponent : Nat) : ℚ) = 2 ^ exponent := by
  show ((2 ^ exponent : Nat) : ℚ) = 2 ^ exponent
  push_cast
  rfl

@[simp] theorem cast_tenTo (exponent : Nat) : ((tenTo exponent : Nat) : ℚ) = 10 ^ exponent := by
  show ((10 ^ exponent : Nat) : ℚ) = 10 ^ exponent
  push_cast
  rfl

namespace Numeral

/-- The exact value of a numeral. -/
def value (numeral : Numeral) : ℚ :=
  (if numeral.negative then -1 else 1) * numeral.digits * 10 ^ numeral.exponent

theorem numerator_div_denominator (numeral : Numeral) :
    (numeral.numerator : ℚ) / numeral.denominator = numeral.digits * 10 ^ numeral.exponent := by
  rw [numerator, denominator, Nat.cast_mul, cast_tenTo, cast_tenTo]
  cases numeral.exponent with
  | ofNat exponent => simp
  | negSucc exponent => simp [div_eq_mul_inv]

theorem value_eq (numeral : Numeral) :
    numeral.value = (if numeral.negative then -1 else 1) * (numeral.numerator / numeral.denominator) := by
  rw [numerator_div_denominator, value, mul_assoc]

theorem denominator_pos (numeral : Numeral) : 0 < numeral.denominator :=
  tenTo_pos _

theorem numerator_eq_zero {numeral : Numeral}
    (zero : (numeral.numerator : ℚ) / numeral.denominator = 0) : numeral.numerator = 0 := by
  rcases div_eq_zero_iff.1 zero with numerator | denominator
  · exact_mod_cast numerator
  · exact absurd (Nat.cast_eq_zero.1 denominator) numeral.denominator_pos.ne'

theorem abs_value (numeral : Numeral) : |numeral.value| = numeral.numerator / numeral.denominator := by
  have nonnegative : (0 : ℚ) ≤ numeral.numerator / numeral.denominator := by positivity
  rw [value_eq, abs_mul, abs_of_nonneg nonnegative]
  split <;> simp

end Numeral

namespace Binary

variable {format : Format}

theorem isZero_iff {x : Binary format} : x.isZero = true ↔ x.size = 0 := by
  have := (twoTo_pos x.exponent).ne'
  simp [isZero, size, this]

/-- The exact value of a number. -/
def value (x : Binary format) : ℚ :=
  x.units / 2 ^ format.lowest

theorem roundedSize_zero {denominator : Nat} (positive : 0 < denominator) :
    roundedSize format 0 denominator = 0 := by
  have unit := Nat.mul_pos positive (twoTo_pos (exponentFor format 0))
  have none : roundToEven 0 (denominator * twoTo (exponentFor format 0)) = 0 :=
    Nat.le_zero.1 ((roundToEven_le_iff unit).2 (.inl (by omega)))
  simp [roundedSize, none]

/-- Numerals are rounded in their order. -/
theorem le_of_value_le (precise : 0 < format.precision) {first second : Numeral} {x y : Binary format}
    (le : first.value ≤ second.value) (rounded : ofNumeral? format first = some x)
    (otherRounded : ofNumeral? format second = some y) : x ≤ y := by
  obtain ⟨sign, sized⟩ := (ofQuotient?_eq_some_iff precise).1 rounded
  obtain ⟨otherSign, otherSized⟩ := (ofQuotient?_eq_some_iff precise).1 otherRounded
  have ordered : ∀ {one other : Numeral},
      (one.numerator : ℚ) / one.denominator ≤ other.numerator / other.denominator →
        roundedSize format one.numerator one.denominator ≤
          roundedSize format other.numerator other.denominator := by
    intro one other less
    apply roundedSize_mono precise one.denominator_pos other.denominator_pos
    have positive : (0 : ℚ) < one.denominator := by exact_mod_cast one.denominator_pos
    have otherPositive : (0 : ℚ) < other.denominator := by exact_mod_cast other.denominator_pos
    rw [div_le_div_iff₀ positive otherPositive] at less
    exact_mod_cast less
  show x.units ≤ y.units
  rw [Numeral.value_eq, Numeral.value_eq, ← sign, ← otherSign] at le
  rw [units, units, sized, otherSized]
  have nonnegative : (0 : ℚ) ≤ first.numerator / first.denominator := by positivity
  have otherNonnegative : (0 : ℚ) ≤ second.numerator / second.denominator := by positivity
  cases negative : x.negative <;> cases otherNegative : y.negative <;>
    simp only [negative, otherNegative, Bool.false_eq_true, if_false, if_true, one_mul, neg_mul] at le ⊢
  · exact_mod_cast ordered le
  · -- A numeral that is not negative is at most one that is negative only if both are zero.
    have zero : first.numerator = 0 := Numeral.numerator_eq_zero (by linarith)
    have otherZero : second.numerator = 0 := Numeral.numerator_eq_zero (by linarith)
    rw [zero, otherZero, roundedSize_zero first.denominator_pos, roundedSize_zero second.denominator_pos]
    omega
  · omega
  · have larger := ordered (neg_le_neg_iff.1 le)
    omega

/-- Half of the last place beyond the largest number, where rounding begins to fail. -/
def limit (format : Format) : ℚ :=
  (2 ^ format.precision - 1 / 2) * 2 ^ format.top / 2 ^ format.lowest

theorem limit_eq {exponent total : Nat} (aligned : format.top = format.lowest + (exponent + 1))
    (sum : total = format.precision + (exponent + 1)) : limit format = 2 ^ total - 2 ^ exponent := by
  rw [limit, aligned, sum, pow_add, pow_add _ format.precision, pow_succ]
  field_simp

theorem limit_binary64 : limit binary64 = 2 ^ 1024 - 2 ^ 970 :=
  limit_eq (by decide) (by decide)

theorem limit_binary32 : limit binary32 = 2 ^ 128 - 2 ^ 103 :=
  limit_eq (by decide) (by decide)

/-- A quotient is rounded to some number if and only if it is below the limit of the format. -/
theorem exists_ofQuotient?_iff_lt_limit (precise : 0 < format.precision) {negative : Bool}
    {numerator denominator : Nat} (positive : 0 < denominator) :
    (∃ x, ofQuotient? format negative numerator denominator = some x) ↔
      (numerator : ℚ) / denominator < limit format := by
  have positiveCast : (0 : ℚ) < denominator := by exact_mod_cast positive
  have full : 1 ≤ 2 * twoTo format.precision := by
    have := twoTo_pos format.precision
    omega
  have scale : (0 : ℚ) < 2 ^ format.lowest := by positivity
  rw [exists_ofQuotient?_iff precise positive, limit, div_lt_div_iff₀ positiveCast scale,
    ← Nat.cast_lt (α := ℚ)]
  push_cast [full]
  rw [cast_twoTo, cast_twoTo, cast_twoTo]
  constructor <;> intro less <;> linarith

/-- A numeral is rounded to some number if and only if it is within the limit of the format. -/
theorem exists_ofNumeral?_iff (precise : 0 < format.precision) {numeral : Numeral} :
    (∃ x, ofNumeral? format numeral = some x) ↔ |numeral.value| < limit format := by
  rw [Numeral.abs_value]
  exact exists_ofQuotient?_iff_lt_limit precise numeral.denominator_pos

section Distance

variable {numeral : Numeral} {x : Binary format}

theorem value_eq (x : Binary format) :
    x.value = (if x.negative then -1 else 1) * (x.size / 2 ^ format.lowest) := by
  rw [value, units]
  split <;> simp [neg_div]

/-- The distance of a number of the same sign from a numeral. -/
theorem abs_value_sub (sameSign : x.negative = numeral.negative) :
    |x.value - numeral.value| =
      |(x.size * numeral.denominator : ℤ) - (numeral.numerator * twoTo format.lowest : Nat)| /
        (numeral.denominator * 2 ^ format.lowest) := by
  have positive : (0 : ℚ) < numeral.denominator := by exact_mod_cast numeral.denominator_pos
  have scale : (0 : ℚ) < 2 ^ format.lowest := by positivity
  have unsigned : |x.value - numeral.value| =
      |(x.size : ℚ) / 2 ^ format.lowest - numeral.numerator / numeral.denominator| := by
    rw [value_eq, Numeral.value_eq, ← sameSign, ← mul_sub, abs_mul]
    split <;> simp
  rw [unsigned, div_sub_div _ _ scale.ne' positive.ne', abs_div,
    abs_of_pos (mul_pos scale positive)]
  push_cast
  rw [cast_twoTo]
  congr 1
  · congr 1
    ring
  · ring

/-- No number is nearer to a numeral than the one to which it is rounded. If another one is as near, the one to
which it is rounded has an even mantissa. -/
theorem ofNumeral?_nearest (precise : 1 < format.precision) (rounded : ofNumeral? format numeral = some x)
    (y : Binary format) :
    |x.value - numeral.value| ≤ |y.value - numeral.value| ∧
      (|y.value - numeral.value| = |x.value - numeral.value| → y.value ≠ x.value → x.mantissa % 2 = 0) := by
  have sign : x.negative = numeral.negative := ((ofQuotient?_eq_some_iff (by omega)).1 rounded).1
  have positive : (0 : ℚ) < numeral.denominator * 2 ^ format.lowest := by
    have := numeral.denominator_pos
    positivity
  have alike : ∀ z : Binary format, z.negative = numeral.negative →
      |x.value - numeral.value| ≤ |z.value - numeral.value| ∧
        (|z.value - numeral.value| = |x.value - numeral.value| → z.value ≠ x.value → x.mantissa % 2 = 0) := by
    intro z sameSign
    obtain ⟨near, even⟩ := size_nearest precise numeral.denominator_pos rounded z
    rw [abs_value_sub sign, abs_value_sub sameSign, div_le_div_iff_of_pos_right positive,
      div_left_inj' positive.ne']
    refine ⟨by exact_mod_cast near, ?_⟩
    intro equal different
    apply even (by exact_mod_cast equal)
    intro sameSize
    apply different
    rw [eq_of_size (sameSign.trans sign.symm) sameSize]
  by_cases sameSign : y.negative = numeral.negative
  · exact alike y sameSign
  · -- Zero lies between the numeral and a number of the other sign.
    have nothing : (zero numeral.negative : Binary format).value = 0 := by
      simp [value, units, size, zero]
    obtain ⟨near, even⟩ := alike (zero numeral.negative) rfl
    rw [nothing, zero_sub, abs_neg] at near even
    have between : |y.value - numeral.value| = |y.value| + |numeral.value| := by
      have size : (0 : ℚ) ≤ y.size / 2 ^ format.lowest := by positivity
      have amount : (0 : ℚ) ≤ numeral.numerator / numeral.denominator := by positivity
      rw [value_eq, Numeral.value_eq]
      cases negative : y.negative <;> cases otherNegative : numeral.negative <;>
        simp only [negative, otherNegative, not_true_eq_false] at sameSign
      · simp [abs_of_nonneg, size, amount, add_nonneg]
      · rw [← abs_neg]
        simp [abs_of_nonneg, size, amount, add_nonneg, add_comm]
    rw [between]
    refine ⟨near.trans (le_add_of_nonneg_left (abs_nonneg _)), ?_⟩
    intro equal different
    have none : |y.value| = 0 := le_antisymm (by linarith) (abs_nonneg _)
    rw [abs_eq_zero] at none
    rw [none, abs_zero, zero_add] at equal
    exact even equal (none ▸ different)

end Distance

end Binary

end FormRules
