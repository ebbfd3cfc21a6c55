/-
This file holds rules. A rule checks a value against an expectation and describes what it asks for. Both
can fail on an expectation that the rule cannot interpret.
-/

import FormRules.Constraint
import FormRules.Fault

namespace FormRules

structure Rule where
  name : String
  needsExpectation : Bool
  /-- Checks a value, the first argument, against an expectation, the second one. -/
  check : Option String → Option String → Except Fault Bool
  /-- What a rule with the given expectation asks for, if that can be described. -/
  constraint? : Option String → Except Fault (Option Constraint) := fun _ => .ok none

namespace Rule

/-- The expectation of a rule that cannot do without one. -/
def expected (name : String) (expectation : Option String) : Except Fault String :=
  match Text.nonBlank? expectation with
  | some expectation => .ok expectation
  | none => .error (.missingExpectation name)

/-- An expectation that has to be a number. -/
def expectedNumber (name : String) (expectation : Option String) : Except Fault Double := do
  let text ← expected name expectation
  match Value.numberOfText? text with
  | some x => .ok x
  | none => .error (.invalidNumber name text)

end Rule

end FormRules
