/-
This file shows that a value is compared with a bound by their exact decimal values. Rounding both of them can only
make the same number of two that differ; it never turns their order around.
-/

import FormRules.Proofs.NumericKinds

namespace FormRules

namespace Binary

variable {format : Format} {x y : Binary format}

/-- The numbers are one, or zero with either sign. -/
def Same (x y : Binary format) : Prop :=
  x = y ∨ x.isZero ∧ y.isZero

instance : Decidable (Same x y) :=
  inferInstanceAs (Decidable (_ ∨ _))

theorem same_iff_units_eq : Same x y ↔ x.units = y.units := by
  constructor
  · intro same
    rcases same with rfl | ⟨zero, otherZero⟩
    · rfl
    · simp [units, isZero_iff.1 zero, isZero_iff.1 otherZero]
  · intro equal
    by_cases sign : x.negative = y.negative
    · left
      apply eq_of_size sign
      rw [units, units, sign] at equal
      split at equal <;> omega
    · right
      rw [isZero_iff, isZero_iff]
      rw [units, units] at equal
      cases negative : x.negative <;> cases otherNegative : y.negative <;> simp_all

theorem same_comm : Same x y ↔ Same y x := by
  rw [same_iff_units_eq, same_iff_units_eq, eq_comm]

/-- Numbers are in the order of the numerals from which they are rounded, unless they are the same. -/
theorem le_iff_value_le (precise : 0 < format.precision) {first second : Numeral}
    (rounded : ofNumeral? format first = some x) (otherRounded : ofNumeral? format second = some y) :
    x ≤ y ↔ first.value ≤ second.value ∨ Same x y := by
  constructor
  · intro le
    rcases le_total first.value second.value with before | after
    · exact .inl before
    · have ge : y ≤ x := le_of_value_le precise after otherRounded rounded
      exact .inr (same_iff_units_eq.2 (Int.le_antisymm le ge))
  · intro either
    rcases either with before | same
    · exact le_of_value_le precise before rounded otherRounded
    · exact (same_iff_units_eq.1 same).le

end Binary

namespace Value

/-- The numeral that a value stands for. A value that is blank or absent counts as zero. -/
inductive Amounts (value : Option String) : Numeral → Prop
  | nothing (blank : text value = "") : Amounts value ⟨false, 0, 0⟩
  | spelled {numeral : Numeral} (spelled : Numeral.Spells (text value).toList numeral) : Amounts value numeral

variable {value : Option String} {amount bound : Numeral}

theorem numberOfText?_text (value : Option String) :
    numberOfText? (text value) = Binary.read? binary64 (text value).toList := by
  cases value with
  | none => rfl
  | some value => rw [numberOfText?, text, Text.trimOrEmpty, Text.trim_trim]

theorem number?_of_amounts (amounts : Amounts value amount)
    (nearest : Binary.ReadsNearest binary64 (text value)) :
    number? value = Binary.ofNumeral? binary64 amount := by
  cases amounts with
  | nothing blank => rw [number?, if_pos blank, Binary.ofNumeral?_of_zero (by decide)]
  | spelled spelled =>
      have given : text value ≠ "" := by
        intro blank
        rw [blank] at spelled
        obtain ⟨cut, none⟩ := spelled.exists_of_size Numeral.exponentSize
        cases Numeral.read?_eq_some_iff.2 none
      rw [number?, if_neg given, numberOfText?_text, nearest amount spelled]

end Value

namespace Rule

variable {value : Option String} {expectation : String} {amount bound : Numeral} {x y : Double}

theorem expectedNumber_of_spells {name : String} (spelled : Numeral.Spells (Text.trim expectation).toList bound)
    (nearest : Binary.ReadsNearest binary64 (Text.trim expectation))
    (rounded : Binary.ofNumeral? binary64 bound = some y) :
    expectedNumber name (some expectation) = .ok y := by
  have read : Binary.read? binary64 (Text.trim expectation).toList = some y := by
    rw [nearest bound spelled, rounded]
  have given : Text.trim expectation ≠ "" := by
    intro blank
    rw [blank] at read
    exact Binary.not_read?_nil y read
  have number : Value.numberOfText? (Text.trim expectation) = some y := by
    rw [Value.numberOfText?, Text.trim_trim, read]
  rw [expectedNumber, bind_eq_ok_iff]
  refine ⟨_, expected_eq_ok_iff.2 (nonBlank?_some given), ?_⟩
  rw [number]

/-- The rules `min` and `max` compare the exact values of the numerals. A value that is beyond its bound passes only
if both are rounded to the same number. -/
theorem bounds_respect_decimal_order (amounts : Value.Amounts value amount)
    (spelled : Numeral.Spells (Text.trim expectation).toList bound)
    (nearest : Binary.ReadsNearest binary64 (Value.text value))
    (boundNearest : Binary.ReadsNearest binary64 (Text.trim expectation))
    (rounded : Binary.ofNumeral? binary64 amount = some x)
    (boundRounded : Binary.ofNumeral? binary64 bound = some y) :
    min.check value (some expectation) = .ok (decide (bound.value ≤ amount.value ∨ x.Same y)) ∧
      max.check value (some expectation) = .ok (decide (amount.value ≤ bound.value ∨ x.Same y)) := by
  have number : Value.number? value = some x := by rw [Value.number?_of_amounts amounts nearest, rounded]
  have asked : ∀ name, expectedNumber name (some expectation) = .ok y :=
    fun _ => expectedNumber_of_spells spelled boundNearest boundRounded
  have least := Binary.le_iff_value_le (by decide) boundRounded rounded
  have most := Binary.le_iff_value_le (by decide) rounded boundRounded
  rw [Binary.same_comm] at least
  simp only [min, max, bounding, asked, number, Option.any_some]
  exact ⟨congrArg Except.ok (decide_eq_decide.2 least), congrArg Except.ok (decide_eq_decide.2 most)⟩

/-- The exponent makes a value so small that it is rounded to minus zero, and so it passes though it is less than
its bound. -/
theorem min_accepts_minus_zero_for_zero :
    min.check (some " -1e-400") (some "0") = .ok true := by
  have small : (Value.text (some " -1e-400")).toList = ['-', '1', 'e', '-', '4', '0', '0'] := by decide +kernel
  have zero : (Text.trim "0").toList = ['0'] := by decide +kernel
  have one : Numeral.SpellsDigits ['1'] [1] := .cons rfl .nil
  have hundreds : Numeral.SpellsDigits ['4', '0', '0'] [4, 0, 0] := .cons rfl (.cons rfl (.cons rfl .nil))
  have nothing : Numeral.SpellsDigits ['0'] [0] := .cons rfl .nil
  have amount : Numeral.Spells ['-', '1', 'e', '-', '4', '0', '0'] ⟨true, 1, -400⟩ :=
    .parts .minus one .none (by decide) (.marked (.inl rfl) .minus hundreds (by decide))
  have bound : Numeral.Spells ['0'] ⟨false, 0, 0⟩ :=
    .parts .none nothing .none (by decide) .none
  have near : ∀ text : String, text.length ≤ 65000 → Binary.ReadsNearest binary64 text :=
    fun _ => Binary.readsNearest_of_length_le Binary.within_binary64
  have order := bounds_respect_decimal_order (.spelled (small ▸ amount)) (zero ▸ bound)
    (near _ (by decide +kernel)) (near _ (by decide +kernel)) (x := Binary.zero true) (y := Binary.zero false)
    (by decide +kernel) (by decide +kernel)
  rw [order.1, decide_eq_true (.inr (by decide))]

end Rule

end FormRules
