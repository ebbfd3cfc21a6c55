/-
This file holds two rules beyond the standard ones. They describe no constraint.
-/

import FormRules.Rule
import FormRules.Text.Pieces
import FormRules.Unicode.Property

namespace FormRules.Rule

/-- No character of the value is a lower-case letter. -/
def uppercase : Rule where
  name := "uppercase"
  needsExpectation := false
  check value _ := .ok ((value.getD "").toList.all fun c => !Unicode.lowercase.contains c)

/-- The value is one of the expected entries, between which there are commas. -/
def oneOf : Rule where
  name := "oneOf"
  needsExpectation := true
  check value expectation := do
    let entries ← expected "oneOf" expectation
    return (Text.pieces ',' entries.toList).any fun entry =>
      Text.trimmed entry == (Value.text value).toList

/-- The rules that a book may have beyond the standard ones. -/
def extra : List Rule :=
  [uppercase, oneOf]

end FormRules.Rule
