/-
This file says what the reader of JSON is asked for beyond values: what is wrong with a text that it refuses.
-/

namespace FormRules

class Json.Diagnostics where
  /-- What is wrong with a text that does not hold texts by name. -/
  diagnosis : String → String

end FormRules
