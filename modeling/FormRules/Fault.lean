/-
This file holds what can be wrong with a rule that is applied: an expectation that the rule cannot
interpret, or no rule of that name.
-/

import FormRules.Pattern

namespace FormRules

inductive Fault where
  | invalidNumber (rule expectation : String)
  | invalidPattern (pattern : String) (cause : PatternError)
  | unsupportedType (name : String)
  | unknownRule (rule : String)
  | missingExpectation (rule : String)
  deriving DecidableEq, Repr

def Fault.message : Fault → String
  | .invalidNumber rule expectation =>
      "Invalid " ++ rule ++ " expectation '" ++ expectation ++ "': expected a number"
  | .invalidPattern pattern cause =>
      "Invalid regex expectation pattern '" ++ pattern ++ "': " ++ cause.message
  | .unsupportedType name => "Unsupported type '" ++ name ++ "'"
  | .unknownRule rule => "Unknown rule '" ++ rule ++ "'"
  | .missingExpectation rule => "Rule '" ++ rule ++ "' was evaluated without an expectation"

end FormRules
