/-
This file reads decimal numerals: a sign, digits with a point, and an exponent. All parts but one digit may
be missing.
-/

import FormRules.Number.Power
import FormRules.Text.Digit

namespace FormRules

/-- A decimal numeral. Its value is `digits * 10 ^ exponent`, negated if `negative`. -/
structure Numeral where
  negative : Bool
  digits : Nat
  exponent : Int
  deriving DecidableEq, Repr

namespace Numeral

/-- A sign at the front of a text, and the rest. -/
def readSign : List Char → Bool × List Char
  | '-' :: rest => (true, rest)
  | '+' :: rest => (false, rest)
  | text => (false, text)

/-- The size of a written exponent. Digits after it has reached 65536 are ignored, since only texts of
that many digits could tell the difference. -/
def exponentSize (digits : List Nat) : Nat :=
  digits.foldl (fun size digit => if size < 65536 then 10 * size + digit else size) 0

/-- Reads an exponent, which is zero if there is nothing to read. -/
def readExponent : List Char → Option Int
  | [] => some 0
  | c :: rest =>
      if c = 'e' ∨ c = 'E' then
        let (negative, rest) := readSign rest
        let (digits, rest) := Text.leadingDigits rest
        if digits.isEmpty || !rest.isEmpty then none
        else if negative then some (-(exponentSize digits : Int))
        else some (exponentSize digits)
      else none

/-- The numeral that a text spells. -/
def read? (text : List Char) : Option Numeral := do
  let (negative, rest) := readSign text
  let (whole, rest) := Text.leadingDigits rest
  let (fraction, rest) :=
    match rest with
    | '.' :: rest => Text.leadingDigits rest
    | rest => ([], rest)
  if whole.isEmpty && fraction.isEmpty then none
  else
    let exponent ← readExponent rest
    some
      { negative
        digits := Text.numberOfDigits 10 (whole ++ fraction)
        exponent := exponent - fraction.length }

/-- The size of the value as a quotient of natural numbers. -/
def numerator (numeral : Numeral) : Nat :=
  numeral.digits * tenTo numeral.exponent.toNat

def denominator (numeral : Numeral) : Nat :=
  tenTo (-numeral.exponent).toNat

end Numeral

end FormRules
