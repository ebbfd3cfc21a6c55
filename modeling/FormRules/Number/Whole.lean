/-
This file reads whole numbers that fit into thirty-two bits with a sign.
-/

import FormRules.Number.Numeral

namespace FormRules.Whole

/-- The whole number that a text spells: a sign, which may be missing, and digits. -/
def read? (text : List Char) : Option Int :=
  let (negative, rest) := Numeral.readSign text
  let (digits, rest) := Text.leadingDigits rest
  if digits.isEmpty || !rest.isEmpty then none
  else
    let size : Int := Text.numberOfDigits 10 digits
    some (if negative then -size else size)

/-- Whether a text spells a signed number of thirty-two bits. -/
def fits32 (text : List Char) : Bool :=
  match read? text with
  | some number => -0x80000000 ≤ number && number < 0x80000000
  | none => false

end FormRules.Whole
