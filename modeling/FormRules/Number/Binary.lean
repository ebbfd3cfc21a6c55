/-
This file holds the finite numbers of a binary floating-point format and the rounding of exact values to
them. Every number is kept exactly, so comparing and rounding are questions about integers.
-/

import FormRules.Number.Numeral

namespace FormRules

/-- A binary format: how many bits a mantissa has, and which powers of two may scale it. The numbers are
multiples of `2 ^ -lowest`, and `top` is the largest exponent, counted from there. -/
structure Format where
  precision : Nat
  lowest : Nat
  top : Nat
  deriving DecidableEq, Repr

def binary64 : Format := ⟨53, 1074, 2045⟩

def binary32 : Format := ⟨24, 149, 253⟩

/-- A finite number of a format: `mantissa * 2 ^ (exponent - lowest)`, negated if `negative`. Zero has two
signs. Every other number has one form, since a mantissa with few bits has the exponent zero. -/
structure Binary (format : Format) where
  negative : Bool
  mantissa : Nat
  exponent : Nat
  mantissa_lt : mantissa < twoTo format.precision
  exponent_le : exponent ≤ format.top
  normal : exponent = 0 ∨ twoTo (format.precision - 1) ≤ mantissa
  deriving DecidableEq

namespace Binary

variable {format : Format}

/-- The size of the number in units of the smallest positive one. -/
def size (x : Binary format) : Nat :=
  x.mantissa * twoTo x.exponent

/-- The number in units of the smallest positive one. -/
def units (x : Binary format) : Int :=
  if x.negative then -x.size else x.size

/-- Zero has its sign ignored when numbers are compared. -/
instance : LE (Binary format) :=
  ⟨fun x y => x.units ≤ y.units⟩

instance (x y : Binary format) : Decidable (x ≤ y) :=
  inferInstanceAs (Decidable (x.units ≤ y.units))

def isZero (x : Binary format) : Bool :=
  x.mantissa == 0

def zero (negative : Bool) : Binary format :=
  ⟨negative, 0, 0, twoTo_pos _, Nat.zero_le _, .inl rfl⟩

def negate (x : Binary format) : Binary format :=
  { x with negative := !x.negative }

/-- The number with these parts, if the format has it. -/
def ofParts? (negative : Bool) (mantissa exponent : Nat) : Option (Binary format) :=
  if fits : mantissa < twoTo format.precision ∧ exponent ≤ format.top
      ∧ (exponent = 0 ∨ twoTo (format.precision - 1) ≤ mantissa) then
    some ⟨negative, mantissa, exponent, fits.1, fits.2.1, fits.2.2⟩
  else none

/-- The natural number nearest to a quotient, the even one of two. -/
def roundToEven (numerator denominator : Nat) : Nat :=
  let quotient := numerator / denominator
  let rest := numerator % denominator
  if 2 * rest < denominator ∨ (2 * rest = denominator ∧ quotient % 2 = 0) then quotient
  else quotient + 1

/-- The exponent that leaves a size with as many bits as a mantissa has. -/
def exponentFor (format : Format) (size : Nat) : Nat :=
  if size < twoTo format.precision then 0 else Nat.log2 size + 1 - format.precision

/-- The number nearest to a quotient, the one with the even mantissa of two. There is none beyond the
largest number by half of its last place or more. -/
def ofQuotient? (format : Format) (negative : Bool) (numerator denominator : Nat) :
    Option (Binary format) :=
  let scaled := numerator * twoTo format.lowest
  let exponent := exponentFor format (scaled / denominator)
  let mantissa := roundToEven scaled (denominator * twoTo exponent)
  if mantissa = twoTo format.precision then
    ofParts? negative (twoTo (format.precision - 1)) (exponent + 1)
  else ofParts? negative mantissa exponent

/-- The number nearest to a numeral. -/
def ofNumeral? (format : Format) (numeral : Numeral) : Option (Binary format) :=
  ofQuotient? format numeral.negative numeral.numerator numeral.denominator

/-- The number that a text spells, rounded to the nearest one of the format. -/
def read? (format : Format) (text : List Char) : Option (Binary format) :=
  (Numeral.read? text).bind (ofNumeral? format)

def ofNat? (format : Format) (n : Nat) : Option (Binary format) :=
  ofQuotient? format false n 1

/-- The rounded product, if it is not too large. -/
def mul? (x y : Binary format) : Option (Binary format) :=
  ofQuotient? format (xor x.negative y.negative) (x.size * y.size) (twoTo (2 * format.lowest))

/-- The rounded quotient, if the divisor is not zero and the quotient is not too large. -/
def div? (x y : Binary format) : Option (Binary format) :=
  if y.isZero then none else ofQuotient? format (xor x.negative y.negative) x.size y.size

end Binary

/-- The numbers that rules compare with. -/
abbrev Double := Binary binary64

end FormRules
