/-
This file reads digits and runs of digits.
-/

namespace FormRules.Text

/-- The value of an ASCII digit. -/
def decimalDigit? (c : Char) : Option Nat :=
  if '0' ≤ c ∧ c ≤ '9' then some (c.toNat - '0'.toNat) else none

/-- The value of an ASCII hexadecimal digit of either case. -/
def hexDigit? (c : Char) : Option Nat :=
  if '0' ≤ c ∧ c ≤ '9' then some (c.toNat - '0'.toNat)
  else if 'a' ≤ c ∧ c ≤ 'f' then some (c.toNat - 'a'.toNat + 10)
  else if 'A' ≤ c ∧ c ≤ 'F' then some (c.toNat - 'A'.toNat + 10)
  else none

/-- The digits at the front of a text, and the rest of it. -/
def leadingDigits : List Char → List Nat × List Char
  | [] => ([], [])
  | c :: rest =>
      match decimalDigit? c with
      | some digit =>
          let (digits, after) := leadingDigits rest
          (digit :: digits, after)
      | none => ([], c :: rest)

/-- The number that digits spell in a base, the first digit counting most. -/
def numberOfDigits (base : Nat) (digits : List Nat) : Nat :=
  digits.foldl (fun number digit => number * base + digit) 0

/-- The number that a text of hexadecimal digits spells. -/
def hexNumber? (text : List Char) : Option Nat :=
  (text.mapM hexDigit?).map (numberOfDigits 16)

end FormRules.Text
