/-
This file holds constraints, the typed descriptions of what rules ask for, and says when a value satisfies
one.
-/

import FormRules.Kind
import FormRules.Pattern

namespace FormRules

/-- What a rule asks of a value, its expectation interpreted. -/
inductive Constraint where
  | required
  | type (kind : Kind)
  | min (bound : Double)
  | max (bound : Double)
  | minLength (bound : Double)
  | maxLength (bound : Double)
  | pattern (text : String)
  deriving DecidableEq

namespace Value

/-- A value is a text, or absent. Every reading of it starts by trimming. -/
abbrev text (value : Option String) : String :=
  Text.trimOrEmpty value

/-- The number that a text spells. -/
def numberOfText? (text : String) : Option Double :=
  Binary.read? binary64 (Text.trim text).toList

/-- A value that is blank or absent counts as zero. -/
def number? (value : Option String) : Option Double :=
  if text value = "" then some (Binary.zero false) else numberOfText? (text value)

/-- The number of characters that remain after trimming. -/
def length (value : Option String) : Nat :=
  (text value).length

/-- The number of characters, rounded like the bounds with which it is compared. There is none if it is
larger than all of them. -/
def lengthNumber? (value : Option String) : Option Double :=
  Binary.ofNat? binary64 (length value)

end Value

namespace Constraint

variable [Pattern.Engine]

/-- When a value satisfies a constraint, which is told from the constraint alone. -/
def Holds (value : Option String) : Constraint → Prop
  | .required => Value.text value ≠ ""
  | .type kind => kind.accepts (Value.text value) = true
  | .min bound => ∃ x, Value.number? value = some x ∧ bound ≤ x
  | .max bound => ∃ x, Value.number? value = some x ∧ x ≤ bound
  | .minLength bound => ∀ x, Value.lengthNumber? value = some x → bound ≤ x
  | .maxLength bound => ∃ x, Value.lengthNumber? value = some x ∧ x ≤ bound
  | .pattern text => ∃ pattern, Pattern.compile text = .ok pattern ∧
      pattern.accepts (Value.text value) = true

instance (value : Option String) : DecidablePred (Holds value)
  | .required => inferInstanceAs (Decidable (_ ≠ _))
  | .type _ => inferInstanceAs (Decidable (_ = _))
  | .min bound => inferInstanceAs (Decidable (∃ x ∈ Value.number? value, bound ≤ x))
  | .max bound => inferInstanceAs (Decidable (∃ x ∈ Value.number? value, x ≤ bound))
  | .minLength bound => inferInstanceAs (Decidable (∀ x ∈ Value.lengthNumber? value, bound ≤ x))
  | .maxLength bound => inferInstanceAs (Decidable (∃ x ∈ Value.lengthNumber? value, x ≤ bound))
  | .pattern text =>
      match compiled : Pattern.compile text with
      | .ok found =>
          decidable_of_iff (found.accepts (Value.text value) = true) (by simp [Holds, compiled])
      | .error _ => .isFalse (by simp [Holds, compiled])

end Constraint

end FormRules
