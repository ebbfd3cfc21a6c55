/-
This file reads the spelling of a JSON number as a double, and writes doubles. As many digits as fit into
sixty-four bits are kept and the others only scale the number, which is then multiplied or divided by a
power of ten. Each of these steps rounds, so the result can differ from the nearest double in its last
place.
-/

import FormRules.Json.Value
import FormRules.Number.Binary
import FormRules.Number.Style
import FormRules.Text.Digit

namespace FormRules.Json

/-- The leading digits of a number as a natural number, and the power of ten that scales it. -/
structure Scaled where
  significand : Nat
  exponent : Int
  full : Bool
  deriving DecidableEq, Repr

/-- Takes one more digit, unless the significand would outgrow sixty-four bits; then this and all later
digits are dropped. `place` is the change of the exponent for a digit that is taken, and `place + 1` that
for one that is dropped. -/
def Scaled.push (place : Int) (scaled : Scaled) (digit : Nat) : Scaled :=
  let grown := scaled.significand * 10 + digit
  if scaled.full || grown ≥ 0x10000000000000000 then
    { scaled with exponent := scaled.exponent + place + 1, full := true }
  else { scaled with significand := grown, exponent := scaled.exponent + place }

/-- The digits before the point, and then those after it, for which there is again room until one of them
is dropped. -/
def scale (whole fraction : List Nat) : Scaled :=
  let front := whole.foldl (Scaled.push 0) ⟨0, 0, false⟩
  fraction.foldl (Scaled.push (-1)) { front with full := false }

/-- The double nearest to a power of ten. -/
def powerOfTen? (exponent : Nat) : Option Double :=
  Binary.ofNat? binary64 (tenTo exponent)

/-- The exponent of the largest power of ten that is a double. -/
def largestPower : Nat := 308

/-- Scales a double by a power of ten. Powers that are too small are divided away in steps. -/
def scaleBy? (x : Double) (exponent : Int) : Option Double :=
  if exponent.natAbs ≤ largestPower then
    if 0 ≤ exponent then (powerOfTen? exponent.natAbs).bind x.mul?
    else (powerOfTen? exponent.natAbs).bind x.div?
  else if x.isZero then some x
  else if 0 ≤ exponent then none
  else (powerOfTen? largestPower).bind x.div? |>.bind fun y => scaleBy? y (exponent + largestPower)
termination_by exponent.natAbs
decreasing_by
  simp only [largestPower] at *
  omega

/-- A double with the sign of its spelling. -/
def signed (negative : Bool) (x : Double) : Double :=
  if negative then x.negate else x

/-- A written exponent as large as this counts as an overflow, or as nothing if it is negative. -/
def exponentLimit : Nat := 0x80000000

/-- The double that the parts of a number amount to, if it is not too large. -/
def assemble? (negative : Bool) (scaled : Scaled) (exponentNegative : Bool) (exponent : Nat) :
    Option Double :=
  if exponentLimit ≤ exponent then
    if scaled.significand ≠ 0 ∧ !exponentNegative then none else some (Binary.zero negative)
  else do
    let x ← Binary.ofNat? binary64 scaled.significand
    let total := if exponentNegative then scaled.exponent - exponent else scaled.exponent + exponent
    let y ← scaleBy? x total
    some (signed negative y)

/-- The double that the spelling of a number amounts to. -/
def doubleOfSpelling? (spelling : List Char) : Option Double :=
  let (negative, rest) :=
    match spelling with
    | '-' :: rest => (true, rest)
    | rest => (false, rest)
  let (whole, rest) := Text.leadingDigits rest
  let (fraction, rest) :=
    match rest with
    | '.' :: rest => Text.leadingDigits rest
    | rest => ([], rest)
  let (exponentNegative, exponent) :=
    match rest with
    | [] => (false, [])
    | _ :: '-' :: rest => (true, (Text.leadingDigits rest).1)
    | _ :: '+' :: rest => (false, (Text.leadingDigits rest).1)
    | _ :: rest => (false, (Text.leadingDigits rest).1)
  assemble? negative (scale whole fraction) exponentNegative (Text.numberOfDigits 10 exponent)

/-- The double of a number. -/
def double? : Json → Option Double
  | .number spelling => doubleOfSpelling? spelling.toList
  | _ => none

def ofDouble (x : Double) : Json :=
  .number (Number.Style.json.write x)

end FormRules.Json
