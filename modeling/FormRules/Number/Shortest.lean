/-
This file finds the fewest decimal digits that read back as a given number and, among those, the ones
nearest to it.
-/

import FormRules.Number.Binary

namespace FormRules

/-- Decimal digits with the power of ten that scales them. -/
structure Decimal where
  digits : Nat
  exponent : Int
  deriving DecidableEq, Repr

/-- Which of two equally near decimals is taken. -/
inductive Tie where
  | toEven
  | up
  deriving DecidableEq, Repr

namespace Decimal

def numerator (x : Decimal) : Nat :=
  x.digits * tenTo x.exponent.toNat

def denominator (x : Decimal) : Nat :=
  tenTo (-x.exponent).toNat

/-- The same value without zeros at the end of the digits; the bound limits how many are dropped. -/
def dropZeros : Nat → Decimal → Decimal
  | 0, x => x
  | bound + 1, x =>
      if x.digits ≠ 0 ∧ x.digits % 10 = 0 then dropZeros bound ⟨x.digits / 10, x.exponent + 1⟩ else x

def digitText (x : Decimal) : List Char :=
  Nat.toDigits 10 x.digits

/-- The exponent of the first digit. -/
def magnitude (x : Decimal) : Int :=
  x.exponent + (x.digitText.length - 1 : Nat)

end Decimal

/-- The values that round to one number, as quotients over a common denominator. The ends belong to them
if the mantissa of the number is even. -/
structure RoundingInterval where
  low : Nat
  value : Nat
  high : Nat
  denominator : Nat
  closed : Bool

namespace RoundingInterval

/-- Halfway to the neighbours in size; below a power of two the neighbour is half as far away. -/
def of {format : Format} (x : Binary format) : RoundingInterval :=
  let scale := twoTo x.exponent
  let nearBelow := x.mantissa = twoTo (format.precision - 1) ∧ 0 < x.exponent
  { low := (4 * x.mantissa - if nearBelow then 1 else 2) * scale
    value := 4 * x.mantissa * scale
    high := (4 * x.mantissa + 2) * scale
    denominator := 4 * twoTo format.lowest
    closed := x.mantissa % 2 = 0 }

def contains (interval : RoundingInterval) (x : Decimal) : Bool :=
  let point := x.numerator * interval.denominator
  let low := interval.low * x.denominator
  let high := interval.high * x.denominator
  if interval.closed then low ≤ point && point ≤ high else low < point && point < high

/-- The exponent of the first decimal digit of the value. -/
def magnitude (interval : RoundingInterval) : Int :=
  let estimate : Int :=
    ((Nat.toDigits 10 interval.value).length : Int) - (Nat.toDigits 10 interval.denominator).length
  let power : Decimal := ⟨1, estimate⟩
  if power.numerator * interval.denominator ≤ interval.value * power.denominator then estimate
  else estimate - 1

/-- The decimals of a given exponent on both sides of the value. -/
def neighbours (interval : RoundingInterval) (exponent : Int) : Decimal × Decimal :=
  let unit : Decimal := ⟨1, exponent⟩
  let below := interval.value * unit.denominator / (unit.numerator * interval.denominator)
  (⟨below, exponent⟩, ⟨below + 1, exponent⟩)

/-- Which of two neighbours is nearer to the value. -/
def nearer (interval : RoundingInterval) (tie : Tie) (below above : Decimal) : Decimal :=
  let value := interval.value * below.denominator
  let fromBelow := value - below.numerator * interval.denominator
  let fromAbove := above.numerator * interval.denominator - value
  if fromBelow < fromAbove then below
  else if fromAbove < fromBelow then above
  else if tie = .toEven ∧ below.digits % 2 = 0 then below
  else above

/-- The nearest decimal of the given exponent that rounds to the number, if there is one. -/
def nearest? (interval : RoundingInterval) (tie : Tie) (exponent : Int) : Option Decimal :=
  let (below, above) := interval.neighbours exponent
  match interval.contains below, interval.contains above with
  | true, true => some (interval.nearer tie below above)
  | true, false => some below
  | false, true => some above
  | false, false => none

end RoundingInterval

/-- The shortest decimal that reads back as the number, without its sign. -/
def Binary.shortest {format : Format} (tie : Tie) (x : Binary format) : Decimal :=
  if x.isZero then ⟨0, 0⟩
  else
    let interval := RoundingInterval.of x
    let magnitude := interval.magnitude
    let counts := List.range (format.precision / 3 + 2)
    let found := counts.findSome? fun (count : Nat) => interval.nearest? tie (magnitude - count)
    (found.getD ⟨0, 0⟩).dropZeros format.precision

end FormRules
