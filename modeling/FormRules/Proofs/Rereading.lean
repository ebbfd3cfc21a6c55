/-
This file follows a double through its JSON text: what is read for the digits that are written is the double itself
if they are few, and always a double close to it.
-/

import FormRules.Proofs.RoundingError
import FormRules.Proofs.WrittenNumber

namespace FormRules

namespace Binary

variable {format : Format} {x y : Binary format} {count exponent : Nat} {negative : Bool}

theorem ofNat?_of_size (sign : y.negative = false) (sized : y.size = count * twoTo format.lowest) :
    ofNat? format count = some y := by
  rw [ofNat?, ← sign]
  exact ofQuotient?_of_exact y Nat.one_pos (by rw [sized, Nat.mul_one])

/-- A whole number with few bits before its zeros is kept as it is. -/
theorem exists_ofNat?_of_bits (few : count < twoTo format.precision) (within : exponent + format.lowest ≤ format.top) :
    ∃ y, ofNat? format (count * twoTo exponent) = some y ∧ y.negative = false ∧
      y.size = count * twoTo exponent * twoTo format.lowest := by
  obtain ⟨y, sign, sized, -⟩ := exists_size_eq few within
  rw [twoTo_add, ← Nat.mul_assoc] at sized
  exact ⟨y, ofNat?_of_size sign sized, sign, sized⟩

section Exact

variable {first second : Nat}

theorem mul?_of_exact (precise : 0 < format.precision) (sign : x.negative = false) (otherSign : y.negative = false)
    (sized : x.size = first * twoTo format.lowest) (otherSized : y.size = second * twoTo format.lowest) :
    x.mul? y = ofQuotient? format false (first * second) 1 := by
  rw [mul?, sign, otherSign, sized, otherSized]
  apply ofQuotient?_congr precise (twoTo_pos _) Nat.one_pos
  rw [Nat.two_mul, twoTo_add]
  ring

theorem div?_of_exact (precise : 0 < format.precision) (sign : x.negative = false) (otherSign : y.negative = false)
    (sized : x.size = first * twoTo format.lowest) (otherSized : y.size = second * twoTo format.lowest)
    (given : 0 < second) : x.div? y = ofQuotient? format false first second := by
  have some : 0 < y.size := by
    rw [otherSized]
    exact Nat.mul_pos given (twoTo_pos _)
  have notZero : ¬ y.isZero = true := by
    rw [isZero_iff]
    omega
  rw [div?, if_neg notZero, sign, otherSign, sized, otherSized]
  apply ofQuotient?_congr precise (Nat.mul_pos given (twoTo_pos _)) given
  ring

end Exact

end Binary

namespace Json

theorem tenTo_eq (exponent : Nat) : tenTo exponent = 5 ^ exponent * twoTo exponent :=
  (Nat.mul_pow 5 2 exponent)

/-- The powers of ten up to the twenty-second are doubles. -/
theorem exists_powerOfTen?_of_small {exponent : Nat} (small : exponent ≤ 22) :
    ∃ y, powerOfTen? exponent = some y ∧ y.negative = false ∧
      y.size = tenTo exponent * twoTo binary64.lowest := by
  have few : 5 ^ exponent < twoTo binary64.precision :=
    (Nat.pow_le_pow_right (by decide) small).trans_lt (by decide)
  have within : exponent + binary64.lowest ≤ binary64.top := by
    simp only [binary64]
    omega
  rw [powerOfTen?, tenTo_eq]
  exact Binary.exists_ofNat?_of_bits few within

/-- A product or quotient of what is held exactly is rounded once. -/
theorem scaleBy?_of_exact {x : Double} {digits : Nat} {exponent : Int} (sign : x.negative = false)
    (sized : x.size = digits * twoTo binary64.lowest) (small : exponent.natAbs ≤ 22) :
    scaleBy? x exponent = Binary.ofNumeral? binary64 ⟨false, digits, exponent⟩ := by
  obtain ⟨y, power, powerSign, powerSized⟩ := exists_powerOfTen?_of_small small
  rw [scaleBy?, if_pos (show exponent.natAbs ≤ largestPower by simp only [largestPower]; omega), power,
    Option.bind_some, Option.bind_some, Binary.ofNumeral?, Numeral.numerator, Numeral.denominator]
  split
  · rename_i up
    rw [Binary.mul?_of_exact (by decide) sign powerSign sized powerSized,
      show exponent.natAbs = exponent.toNat by omega, show (-exponent).toNat = 0 by omega, tenTo_zero]
  · rename_i down
    rw [Binary.div?_of_exact (by decide) sign powerSign sized powerSized (tenTo_pos _),
      show exponent.natAbs = (-exponent).toNat by omega, show exponent.toNat = 0 by omega, tenTo_zero, Nat.mul_one]

/-- The sign of a numeral is the sign of what it is rounded to. -/
theorem map_signed_ofNumeral? (negative : Bool) (digits : Nat) (exponent : Int) :
    (Binary.ofNumeral? binary64 ⟨false, digits, exponent⟩).map (signed negative) =
      Binary.ofNumeral? binary64 ⟨negative, digits, exponent⟩ := by
  have precise : 0 < binary64.precision := by decide
  have size : ∀ x : Double, (signed negative x).size = x.size := by
    intro x
    cases negative <;> rfl
  cases rounded : Binary.ofNumeral? binary64 ⟨false, digits, exponent⟩ with
  | none =>
      symm
      rw [Option.map_none, Option.eq_none_iff_forall_ne_some]
      intro x other
      have sized := ((Binary.ofQuotient?_eq_some_iff precise).1 other).2
      have positive : Binary.ofNumeral? binary64 ⟨false, digits, exponent⟩ = some ⟨false, x.mantissa, x.exponent,
          x.mantissa_lt, x.exponent_le, x.normal⟩ :=
        (Binary.ofQuotient?_eq_some_iff precise).2 ⟨rfl, sized⟩
      rw [rounded] at positive
      cases positive
  | some x =>
      obtain ⟨sign, sized⟩ := (Binary.ofQuotient?_eq_some_iff precise).1 rounded
      symm
      refine (Binary.ofQuotient?_eq_some_iff precise).2 ⟨?_, (size x).trans sized⟩
      have positive : x.negative = false := sign
      cases negative <;> simp [signed, Binary.negate, positive]

theorem value_written (decimal : Decimal) : (written decimal).value = decimal.value := by
  by_cases plainly : Number.Style.json.isPlain decimal.magnitude = true
  · rw [written_of_isPlain plainly, value_padded]
  · rw [written_of_not_isPlain plainly]

/-- What is written for a double would be read back if it were rounded once. -/
theorem ofNumeral?_written (x : Double) :
    Binary.ofNumeral? binary64 ⟨x.negative, (written (x.shortest .toEven)).digits,
      (written (x.shortest .toEven)).exponent⟩ = some x :=
  Binary.ofNumeral?_of_value_eq .toEven (by decide) (value_written _)

/-- Whether a double holds the digits that are written for another one, and a double the power of ten that scales
them. -/
def ExactlyWritten (x : Double) : Prop :=
  (∃ y : Double, y.amount = (written (x.shortest .toEven)).digits) ∧
    (written (x.shortest .toEven)).exponent.natAbs ≤ 22

theorem exactlyWritten_of_few {x : Double} (few : (written (x.shortest .toEven)).digits < 2 ^ 53)
    (small : (written (x.shortest .toEven)).exponent.natAbs ≤ 22) : ExactlyWritten x := by
  have within : 0 + binary64.lowest ≤ binary64.top := by decide
  obtain ⟨y, -, -, sized⟩ := Binary.exists_ofNat?_of_bits few within
  refine ⟨⟨y, ?_⟩, small⟩
  rw [twoTo_zero, Nat.mul_one] at sized
  rw [Binary.amount_eq_iff]
  exact sized

theorem exactlyWritten_of_zero {x : Double} (nothing : x.mantissa = 0) : ExactlyWritten x := by
  have none : written (x.shortest .toEven) = ⟨0, -1⟩ := by
    rw [Binary.shortest_of_zero .toEven nothing]
    rfl
  apply exactlyWritten_of_few
  · rw [none]
    decide
  · rw [none]
    decide

/-- A double is read back if only the last step of reading it can round. -/
theorem double?_ofDouble_of_exactlyWritten {x : Double} (exactly : ExactlyWritten x) :
    double? (ofDouble x) = some x := by
  obtain ⟨⟨y, held⟩, small⟩ := exactly
  rw [Binary.amount_eq_iff] at held
  have positive : ({ y with negative := false } : Double).size =
      (written (x.shortest .toEven)).digits * twoTo binary64.lowest := held
  have rounded := Binary.ofNat?_of_size rfl positive
  rw [double?_ofDouble, rounded, Option.bind_some, scaleBy?_of_exact rfl positive small, map_signed_ofNumeral?,
    ofNumeral?_written]

end Json

end FormRules
