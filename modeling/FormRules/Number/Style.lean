/-
This file writes numbers: with a point among the digits, or scientifically with an exponent.
-/

import FormRules.Number.Shortest

namespace FormRules.Number

/-- How numbers are written. Scientific notation is used outside of the range of magnitudes that
`isPlain` accepts. -/
structure Style where
  tie : Tie
  isPlain : Int → Bool
  wholeEnding : String

/-- Numbers in JSON have a point or an exponent, and a plain form from 0.00001 up to sixteen digits. -/
def Style.json : Style where
  tie := .toEven
  isPlain magnitude := -5 ≤ magnitude && magnitude ≤ 15
  wholeEnding := ".0"

/-- Numbers in reports have no exponent, and no point if they are whole. -/
def Style.report : Style where
  tie := .up
  isPlain _ := true
  wholeEnding := ""

/-- Digits with the point after the digit of magnitude zero. -/
def plain (wholeEnding : String) (x : Decimal) : List Char :=
  let digits := x.digitText
  let magnitude := x.magnitude
  if magnitude < 0 then
    '0' :: '.' :: (List.replicate (-magnitude - 1).toNat '0' ++ digits)
  else if 0 ≤ x.exponent then
    digits ++ List.replicate x.exponent.toNat '0' ++ wholeEnding.toList
  else digits.take (magnitude.toNat + 1) ++ '.' :: digits.drop (magnitude.toNat + 1)

/-- One digit before the point, and an exponent that always has a sign if the magnitude is positive. -/
def scientific (x : Decimal) : List Char :=
  let magnitude := x.magnitude
  let mantissa :=
    match x.digitText with
    | first :: second :: rest => first :: '.' :: second :: rest
    | digits => digits
  let sign := if magnitude < 0 then ['-'] else ['+']
  mantissa ++ 'e' :: (sign ++ Nat.toDigits 10 magnitude.natAbs)

/-- The text of a number. -/
def Style.write (style : Style) (x : Double) : String :=
  let decimal := x.shortest style.tie
  let digits :=
    if style.isPlain decimal.magnitude then plain style.wholeEnding decimal else scientific decimal
  String.ofList (if x.negative then '-' :: digits else digits)

end FormRules.Number
