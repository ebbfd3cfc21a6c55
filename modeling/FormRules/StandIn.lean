/-
This file stands in for the libraries, so that the program can be run. The words in which they say what is wrong
with a text are not known here.
-/

import FormRules.Json.Diagnostics
import FormRules.Pattern.Engine
import FormRules.Pattern.Size
import FormRules.Pattern.Spanning

namespace FormRules.StandIn

/-- Searches by residuals, and goes by an estimate of how large automata are. -/
scoped instance engine : Pattern.Engine where
  diagnosis _ := "<regex syntax error>"
  refusal? expr := if expr.fits then none else some ⟨some Pattern.sizeLimit, ""⟩
  isMatch expr text := expr.occurs none text
  limited := by
    intro expr error refused
    split at refused
    · cases refused
    · cases refused
      rfl
  isMatch_iff := Pattern.occurs_iff

scoped instance diagnostics : Json.Diagnostics where
  diagnosis _ := "<json error>"

end FormRules.StandIn
