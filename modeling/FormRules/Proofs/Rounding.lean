/-
This file shows that rounding leaves the numbers of a format as they are. So whole numbers with few enough
bits are kept exactly.
-/

import FormRules.Constraint
import Mathlib.Tactic.Ring

namespace FormRules.Binary

variable {format : Format}

/-- The exponent of a number is told from its size. -/
theorem exponentFor_size (x : Binary format) : exponentFor format x.size = x.exponent := by
  by_cases lowest : x.exponent = 0
  · have small : x.size < twoTo format.precision := by
      simpa [size, lowest] using x.mantissa_lt
    rw [exponentFor, if_pos small, lowest]
  · have normal : 2 ^ (format.precision - 1) ≤ x.mantissa := x.normal.resolve_left lowest
    have below : x.mantissa < 2 ^ format.precision := x.mantissa_lt
    have precise : format.precision - 1 < format.precision :=
      (Nat.pow_lt_pow_iff_right (by decide : 1 < 2)).1 (normal.trans_lt below)
    have atLeast : 2 ^ (format.precision - 1 + x.exponent) ≤ x.size := by
      rw [Nat.pow_add]
      exact Nat.mul_le_mul_right _ normal
    have lessThan : x.size < 2 ^ (format.precision - 1 + x.exponent + 1) := by
      rw [show format.precision - 1 + x.exponent + 1 = format.precision + x.exponent by omega,
        Nat.pow_add]
      exact Nat.mul_lt_mul_of_pos_right below (Nat.two_pow_pos _)
    have large : ¬ x.size < twoTo format.precision := by
      have power : 2 ^ format.precision ≤ 2 ^ (format.precision - 1 + x.exponent) :=
        Nat.pow_le_pow_right (by decide) (by omega)
      exact Nat.not_lt.2 (power.trans atLeast)
    have positive : x.size ≠ 0 := by
      have := Nat.two_pow_pos (format.precision - 1 + x.exponent)
      omega
    rw [exponentFor, if_neg large, (Nat.log2_eq_iff positive).2 ⟨atLeast, lessThan⟩]
    omega

theorem roundToEven_mul (quotient : Nat) {denominator : Nat} (positive : 0 < denominator) :
    roundToEven (quotient * denominator) denominator = quotient := by
  simp [roundToEven, Nat.mul_div_cancel _ positive, positive]

theorem ofParts?_self (x : Binary format) : ofParts? x.negative x.mantissa x.exponent = some x := by
  have fits := And.intro x.mantissa_lt (And.intro x.exponent_le x.normal)
  simp [ofParts?, fits]

/-- A quotient that is a number of the format is rounded to that number. -/
theorem ofQuotient?_of_exact (x : Binary format) {numerator denominator : Nat}
    (positive : 0 < denominator) (exact : numerator * twoTo format.lowest = x.size * denominator) :
    ofQuotient? format x.negative numerator denominator = some x := by
  have quotient : numerator * twoTo format.lowest / denominator = x.size := by
    rw [exact, Nat.mul_div_cancel _ positive]
  have scaled : numerator * twoTo format.lowest =
      x.mantissa * (denominator * twoTo x.exponent) := by
    rw [exact, size]
    ring
  have mantissa : roundToEven (numerator * twoTo format.lowest) (denominator * twoTo x.exponent) =
      x.mantissa := by
    rw [scaled, roundToEven_mul _ (Nat.mul_pos positive (twoTo_pos _))]
  have below : x.mantissa ≠ twoTo format.precision := Nat.ne_of_lt x.mantissa_lt
  simp only [ofQuotient?, quotient, exponentFor_size, mantissa, if_neg below]
  exact ofParts?_self x

/-- A number of few bits can be doubled as long as the exponent has room. -/
theorem exists_size_eq {count shift : Nat} (few : count < twoTo format.precision)
    (within : shift ≤ format.top) :
    ∃ x : Binary format, x.negative = false ∧ x.size = count * twoTo shift ∧ x.exponent ≤ shift := by
  induction shift with
  | zero => exact ⟨⟨false, count, 0, few, Nat.zero_le _, .inl rfl⟩, rfl, rfl, Nat.le_refl _⟩
  | succ shift inductionHypothesis =>
      obtain ⟨x, sign, sized, bounded⟩ := inductionHypothesis (Nat.le_of_succ_le within)
      have doubled : count * twoTo (shift + 1) = 2 * x.size := by
        rw [sized, twoTo_succ]
        ring
      by_cases room : x.exponent = 0 ∧ 2 * x.mantissa < twoTo format.precision
      · refine ⟨⟨false, 2 * x.mantissa, 0, room.2, Nat.zero_le _, .inl rfl⟩, rfl, ?_, Nat.zero_le _⟩
        have sameSize : x.size = x.mantissa := by simp [size, room.1]
        rw [doubled, sameSize]
        exact Nat.mul_one _
      · have normal : twoTo (format.precision - 1) ≤ x.mantissa := by
          rcases x.normal with lowest | normal
          · have full : 2 ^ format.precision ≤ 2 * x.mantissa :=
              Nat.not_lt.1 fun less => room ⟨lowest, less⟩
            cases precision : format.precision with
            | zero =>
                have := x.mantissa_lt
                rw [precision] at this full
                simp only [twoTo_zero, Nat.pow_zero] at this full
                omega
            | succ precise =>
                rw [precision, Nat.pow_succ] at full
                show 2 ^ precise ≤ x.mantissa
                omega
          · exact normal
        refine ⟨⟨false, x.mantissa, x.exponent + 1, x.mantissa_lt, by omega, .inr normal⟩, rfl, ?_,
          by show x.exponent + 1 ≤ shift + 1; omega⟩
        rw [doubled, size, size, twoTo_succ]
        ring

/-- Whole numbers of no more bits than a mantissa has are numbers of the format. -/
theorem ofNat?_of_few {count : Nat} (few : count < twoTo format.precision)
    (within : format.lowest ≤ format.top) :
    ∃ x, ofNat? format count = some x ∧ x.units = (count * twoTo format.lowest : Nat) := by
  obtain ⟨x, sign, sized, -⟩ := exists_size_eq few within
  refine ⟨x, ?_, by simp [units, sign, sized]⟩
  have exact : count * twoTo format.lowest = x.size * 1 := by rw [sized, Nat.mul_one]
  rw [ofNat?, ← sign]
  exact ofQuotient?_of_exact x Nat.one_pos exact

end FormRules.Binary
