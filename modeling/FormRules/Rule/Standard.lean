/-
This file holds the seven standard rules.
-/

import FormRules.Rule

namespace FormRules

/-- The kind of a name, or the fault of naming none. -/
def Kind.named (name : String) : Except Fault Kind :=
  match Kind.ofName? name with
  | some kind => .ok kind
  | none => .error (.unsupportedType (Text.trim name))

/-- The pattern of a text, or the fault of spelling none. -/
def Pattern.spelled [Pattern.Engine] (text : String) : Except Fault Pattern :=
  match Pattern.compile text with
  | .ok pattern => .ok pattern
  | .error cause => .error (.invalidPattern text cause)

namespace Rule

/-- The value is neither absent nor blank. -/
def required : Rule where
  name := "required"
  needsExpectation := false
  check value _ := .ok (Text.nonBlank? value).isSome
  constraint? _ := .ok (some .required)

/-- The value is of the expected kind. -/
def type : Rule where
  name := "type"
  needsExpectation := true
  check value expectation := do
    let name ← expected "type" expectation
    let kind ← Kind.named name
    return kind.accepts (Value.text value)
  constraint? expectation := do
    let name ← expected "type" expectation
    let kind ← Kind.named name
    return some (.type kind)

/-- A rule that compares something of the value with a bound. -/
def bounding (name : String) (describe : Double → Constraint)
    (passes : Double → Option String → Bool) : Rule where
  name := name
  needsExpectation := true
  check value expectation := do
    let bound ← expectedNumber name expectation
    return passes bound value
  constraint? expectation := do
    let bound ← expectedNumber name expectation
    return some (describe bound)

/-- The value is a number and no less than the expected one. -/
def min : Rule :=
  bounding "min" .min fun bound value => (Value.number? value).any fun x => decide (bound ≤ x)

/-- The value is a number and no more than the expected one. -/
def max : Rule :=
  bounding "max" .max fun bound value => (Value.number? value).any fun x => decide (x ≤ bound)

/-- The value has no fewer characters than expected. -/
def minLength : Rule :=
  bounding "minLength" .minLength fun bound value =>
    (Value.lengthNumber? value).all fun x => decide (bound ≤ x)

/-- The value has no more characters than expected. -/
def maxLength : Rule :=
  bounding "maxLength" .maxLength fun bound value =>
    (Value.lengthNumber? value).any fun x => decide (x ≤ bound)

section Patterns

variable [Pattern.Engine]

/-- The expected pattern spans the whole value. -/
def regex : Rule where
  name := "regex"
  needsExpectation := true
  check value expectation := do
    let text ← expected "regex" expectation
    let pattern ← Pattern.spelled text
    return pattern.accepts (Value.text value)
  constraint? expectation := do
    let text ← expected "regex" expectation
    let _ ← Pattern.spelled text
    return some (.pattern text)

/-- The standard rules. -/
def standard : List Rule :=
  [required, type, min, max, minLength, maxLength, regex]

theorem standard_names :
    standard.map name = ["required", "type", "min", "max", "minLength", "maxLength", "regex"] :=
  rfl

end Patterns

end Rule

end FormRules
