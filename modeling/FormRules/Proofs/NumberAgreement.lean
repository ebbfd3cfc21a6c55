/-
This file shows that the kinds and the bounds agree on what a number is. Every integer is a number of single precision
and every such number one of double precision; and the values that a bound can be compared with are the blank ones and
those of double precision.
-/

import FormRules.Proofs.BoundOrder
import FormRules.Proofs.Summary

namespace FormRules

namespace Binary

variable {format : Format} {x y : Binary format}

/-- Numbers are compared by their exact values. -/
theorem value_le_value_iff : x.value ≤ y.value ↔ x ≤ y := by
  have scale : (0 : ℚ) < 2 ^ format.lowest := by positivity
  rw [value, value, div_le_div_iff_of_pos_right scale, Int.cast_le]
  rfl

theorem value_eq_value_iff : x.value = y.value ↔ x ≤ y ∧ y ≤ x := by
  rw [← value_le_value_iff, ← value_le_value_iff, le_antisymm_iff]

theorem le_or_le (x y : Binary format) : x ≤ y ∨ y ≤ x :=
  Int.le_total _ _

end Binary

namespace Kind

variable {value : String}

theorem accepts_float_of_accepts_integer (accepted : integer.accepts value = true) :
    float.accepts value = true := by
  simp only [accepts] at accepted
  split at accepted
  · cases accepted
  · exact (accepts_iff_exists_read? rfl).2
      (Whole.exists_read?_of_fits32 (by decide) (by decide) (by decide) accepted)

theorem accepts_double_of_accepts_float (accepted : float.accepts value = true) :
    double.accepts value = true := by
  obtain ⟨x, read⟩ := (accepts_iff_exists_read? rfl).1 accepted
  exact (accepts_iff_exists_read? rfl).2 (Binary.exists_read?_binary64_of_binary32 read)

end Kind

namespace Value

variable {value : Option String}

@[simp] theorem trim_text (value : Option String) : Text.trim (text value) = text value := by
  cases value with
  | none => rfl
  | some value => exact Text.trim_trim value

/-- A value has a number if it is blank or of double precision. -/
theorem exists_number?_iff :
    (∃ x, number? value = some x) ↔ text value = "" ∨ Kind.double.accepts (text value) = true := by
  rw [Kind.accepts_iff_exists_read? rfl, trim_text, ← numberOfText?_text, number?]
  split
  · simp [*]
  · simp [*]

theorem number?_eq_none_iff (given : text value ≠ "") :
    number? value = none ↔ Kind.double.accepts (text value) = false := by
  rw [← not_iff_not, ← ne_eq, Option.ne_none_iff_exists', exists_number?_iff, Bool.not_eq_false]
  simp [given]

/-- An expectation that is taken for a value has the number that it spells. -/
theorem number?_of_expects {bound : Double} (expects : Rule.Expects value bound) : number? value = some bound := by
  obtain ⟨written, found, read⟩ := expects
  obtain ⟨given, whole, rfl, rfl⟩ := Text.nonBlank?_eq_some found
  have solid : text (some whole) ≠ "" := given
  rw [number?, if_neg solid]
  exact read

end Value

/-- A rule with a bound tells whether values pass the number that it expects. -/
theorem Rule.bounding_check_of_expects {name : String} {describe : Double → Constraint}
    {passes : Double → Option String → Bool} {expectation value : Option String} {bound : Double} {holds : Prop}
    [Decidable holds] (decides : passes bound value = true ↔ holds) (expects : Expects expectation bound) :
    (bounding name describe passes).check value expectation = .ok (decide holds) := by
  have read : expectedNumber name expectation = .ok bound := expectedNumber_eq_ok_iff.2 expects
  simp only [bounding, read, bind, Except.bind, pure, Except.pure, Except.ok.injEq]
  rw [Bool.eq_iff_iff, decides, decide_eq_true_eq]

namespace Limit

variable {expectation : Option String} {bound : Double}

/-- The standard rule for bounds of a kind. -/
@[reducible]
def rule : Limit → Rule
  | .min => .min
  | .max => .max
  | .minLength => .minLength
  | .maxLength => .maxLength

theorem constraint?_eq_ok_iff (limit : Limit) :
    limit.rule.constraint? expectation = .ok (some (limit.constraint bound)) ↔ Rule.Expects expectation bound := by
  cases limit with
  | min => exact Rule.bounding_constraint?_eq_ok_iff fun _ _ => Constraint.min.inj
  | max => exact Rule.bounding_constraint?_eq_ok_iff fun _ _ => Constraint.max.inj
  | minLength => exact Rule.bounding_constraint?_eq_ok_iff fun _ _ => Constraint.minLength.inj
  | maxLength => exact Rule.bounding_constraint?_eq_ok_iff fun _ _ => Constraint.maxLength.inj

/-- A rule with a bound accepts the values that pass the bound. -/
theorem check_of_expects (limit : Limit) (expects : Rule.Expects expectation bound) (value : Option String) :
    limit.rule.check value expectation = .ok (decide (limit.Passes bound value)) := by
  cases limit with
  | min => exact Rule.bounding_check_of_expects (by simp [Passes, Option.any_eq_true]) expects
  | max => exact Rule.bounding_check_of_expects (by simp [Passes, Option.any_eq_true]) expects
  | minLength => exact Rule.bounding_check_of_expects (by simp [Passes, Option.all_eq_true]) expects
  | maxLength => exact Rule.bounding_check_of_expects (by simp [Passes, Option.any_eq_true]) expects

end Limit

namespace Rule

variable {low high value : Option String} {x y number : Double}

theorem expects_of_numberOfText? {expectation : String} {bound : Double}
    (read : Value.numberOfText? expectation = some bound) : Expects (some expectation) bound := by
  have given : Text.trim expectation ≠ "" := by
    intro blank
    rw [Value.numberOfText?, blank] at read
    exact Binary.not_read?_nil bound read
  refine ⟨Text.trim expectation, nonBlank?_some given, ?_⟩
  rw [Value.numberOfText?, Text.trim_trim]
  exact read

/-- A value passes at least one of the bounds with one number if it has a number itself. -/
theorem passes_either (expects : Expects low x) (found : Value.number? value = some number) :
    min.check value low = .ok true ∨ max.check value low = .ok true := by
  simp only [Limit.min.check_of_expects expects, Limit.max.check_of_expects expects, Except.ok.injEq, decide_eq_true_eq]
  rcases Binary.le_or_le x number with below | above
  · exact .inl ⟨number, found, below⟩
  · exact .inr ⟨number, found, above⟩

/-- A value fails both bounds with one number only if it has no number itself. -/
theorem fails_both_iff (expects : Expects low x) :
    (min.check value low = .ok false ∧ max.check value low = .ok false) ↔ Value.number? value = none := by
  constructor
  · intro failed
    rw [Option.eq_none_iff_forall_ne_some]
    intro number found
    have passed := passes_either expects found
    rw [failed.1, failed.2] at passed
    simp at passed
  · intro missing
    simp [Limit.min.check_of_expects expects, Limit.max.check_of_expects expects, Limit.Passes,
      missing]

/-- A value passes two bounds if its number lies between them. -/
theorem passes_both_iff (expectsLow : Expects low x) (expectsHigh : Expects high y) :
    (min.check value low = .ok true ∧ max.check value high = .ok true) ↔
      ∃ number, Value.number? value = some number ∧ x ≤ number ∧ number ≤ y := by
  simp only [Limit.min.check_of_expects expectsLow, Limit.max.check_of_expects expectsHigh, Except.ok.injEq,
    decide_eq_true_eq]
  constructor
  · intro both
    obtain ⟨⟨number, found, above⟩, other, foundAgain, below⟩ := both
    cases Option.some.inj (found.symm.trans foundAgain)
    exact ⟨number, found, above, below⟩
  · intro between
    obtain ⟨number, found, above, below⟩ := between
    exact ⟨⟨number, found, above⟩, number, found, below⟩

/-- Some value lies between two bounds unless they are the wrong way round; the lower bound itself does. -/
theorem exists_passes_both_iff (expectsLow : Expects low x) (expectsHigh : Expects high y) :
    (∃ value, min.check value low = .ok true ∧ max.check value high = .ok true) ↔ x ≤ y := by
  constructor
  · intro passed
    obtain ⟨value, both⟩ := passed
    obtain ⟨number, -, above, below⟩ := (passes_both_iff expectsLow expectsHigh).1 both
    exact Int.le_trans above below
  · intro le
    exact ⟨low, (passes_both_iff expectsLow expectsHigh).2
      ⟨x, Value.number?_of_expects expectsLow, Int.le_refl _, le⟩⟩

/-- Kinds and bounds agree on numbers. Integers are of single precision, which is of double precision. A value that is
not blank fails both bounds with one number if and only if it is not of double precision. Otherwise it has a number and
passes at least one of them, and both exactly if its number is theirs. Between two bounds there is a value if and only
if the lower one is no larger than the upper one. -/
theorem kinds_and_bounds_agree_on_numbers :
    (∀ value, Kind.integer.accepts value = true → Kind.float.accepts value = true) ∧
    (∀ value, Kind.float.accepts value = true → Kind.double.accepts value = true) ∧
    (∀ low high x y, min.constraint? low = .ok (some (.min x)) → max.constraint? high = .ok (some (.max y)) →
      max.constraint? low = .ok (some (.max x)) ∧
      (∀ value, Value.text value ≠ "" →
        ((min.check value low = .ok false ∧ max.check value low = .ok false) ↔
          Kind.double.accepts (Value.text value) = false)) ∧
      (∀ value, Value.text value = "" ∨ Kind.double.accepts (Value.text value) = true →
        (min.check value low = .ok true ∨ max.check value low = .ok true) ∧
        ∃ number, Value.number? value = some number ∧
          ((min.check value low = .ok true ∧ max.check value low = .ok true) ↔ number.value = x.value)) ∧
      ((∃ value, min.check value low = .ok true ∧ max.check value high = .ok true) ↔ x.value ≤ y.value)) := by
  refine ⟨fun _ => Kind.accepts_float_of_accepts_integer, fun _ => Kind.accepts_double_of_accepts_float, ?_⟩
  intro low high x y lowDescribed highDescribed
  have expectsLow := Limit.min.constraint?_eq_ok_iff.1 lowDescribed
  have expectsHigh := Limit.max.constraint?_eq_ok_iff.1 highDescribed
  refine ⟨Limit.max.constraint?_eq_ok_iff.2 expectsLow, ?_, ?_, ?_⟩
  · intro value given
    rw [fails_both_iff expectsLow, Value.number?_eq_none_iff given]
  · intro value numeric
    obtain ⟨number, found⟩ := Value.exists_number?_iff.2 numeric
    refine ⟨passes_either expectsLow found, number, found, ?_⟩
    rw [passes_both_iff expectsLow expectsLow, Binary.value_eq_value_iff, and_comm]
    simp [found]
  · rw [exists_passes_both_iff expectsLow expectsHigh, Binary.value_le_value_iff]

/-- An absent value is a number that equals minus zero. No value lies between a tenth and a hundredth. -/
theorem absent_value_equals_minus_zero :
    (min.check none (some " -0.0 ") = .ok true ∧ max.check none (some " -0.0 ") = .ok true) ∧
      ¬ ∃ value, min.check value (some "0.1") = .ok true ∧ max.check value (some "1e-2") = .ok true := by
  obtain ⟨-, -, bounds⟩ := kinds_and_bounds_agree_on_numbers
  obtain ⟨-, -, numeric, -⟩ := bounds (some " -0.0 ") (some " -0.0 ") (Binary.zero true) (Binary.zero true)
    (by decide +kernel) (by decide +kernel)
  obtain ⟨-, -, -, between⟩ := bounds (some "0.1") (some "1e-2")
    ⟨false, 7205759403792794, 1018, by decide, by decide, by decide⟩
    ⟨false, 5764607523034235, 1015, by decide, by decide, by decide⟩ (by decide +kernel) (by decide +kernel)
  refine ⟨?_, ?_⟩
  · obtain ⟨-, number, found, both⟩ := numeric none (.inl rfl)
    cases Option.some.inj found
    rw [both, Binary.value_eq_value_iff]
    decide
  · rw [between, Binary.value_le_value_iff]
    decide +kernel

end Rule

end FormRules
