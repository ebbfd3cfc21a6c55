/-
This file says which digits and which exponent are written for a double. They spell a number, and the number is read
from them by one multiplication or division.
-/

import FormRules.Proofs.JsonNumber
import FormRules.Proofs.ShortestDecimal

namespace FormRules

open Numeral (SpellsDigits)

section Digits

variable {text : List Char} {digits : List Nat} {n : Nat}

theorem numberOfDigits_singleton (digit : Nat) : Text.numberOfDigits 10 [digit] = digit := by
  simp [Text.numberOfDigits]

theorem numberOfDigits_append_singleton (digits : List Nat) (digit : Nat) :
    Text.numberOfDigits 10 (digits ++ [digit]) = Text.numberOfDigits 10 digits * 10 + digit := by
  rw [Json.numberOfDigits_append]
  rfl

theorem decimalDigit?_digitChar : ∀ digit < 10, Text.decimalDigit? (Nat.digitChar digit) = some digit := by
  decide

/-- The digits of a natural number, of which only zero begins with a zero. -/
structure DigitsOf (n : Nat) (text : List Char) (digits : List Nat) : Prop where
  spelled : SpellsDigits text digits
  number : Text.numberOfDigits 10 digits = n
  given : digits ≠ []
  plain : digits = [0] ∨ digits.head? ≠ some 0

theorem exists_digitsOf (n : Nat) : ∃ digits, DigitsOf n (Nat.toDigits 10 n) digits := by
  induction n using Nat.strongRecOn with
  | ind n inductionHypothesis =>
      rw [Nat.toDigits_eq_if (by decide)]
      split
      · rename_i small
        refine ⟨[n], ?_, numberOfDigits_singleton n, by simp, ?_⟩
        · exact .cons (decimalDigit?_digitChar n small) .nil
        · simpa using Decidable.em (n = 0)
      · rename_i large
        obtain ⟨digits, spelled, number, given, plain⟩ := inductionHypothesis (n / 10) (by omega)
        refine ⟨digits ++ [n % 10], ?_, ?_, by simp, .inr ?_⟩
        · exact List.rel_append spelled (.cons (decimalDigit?_digitChar _ (by omega)) .nil)
        · rw [numberOfDigits_append_singleton, number]
          omega
        · rcases plain with rfl | nonzero
          · rw [numberOfDigits_singleton] at number
            omega
          · rwa [List.head?_append_of_ne_nil _ given]

theorem spellsDigits_zeros (count : Nat) : SpellsDigits (List.replicate count '0') (List.replicate count 0) := by
  induction count with
  | zero => exact .nil
  | succ count inductionHypothesis => exact .cons rfl inductionHypothesis

theorem numberOfDigits_append_zeros (digits : List Nat) (count : Nat) :
    Text.numberOfDigits 10 (digits ++ List.replicate count 0) = Text.numberOfDigits 10 digits * 10 ^ count := by
  induction count with
  | zero => simp
  | succ count inductionHypothesis =>
      rw [List.replicate_succ', ← List.append_assoc, numberOfDigits_append_singleton, inductionHypothesis, pow_succ]
      ring

theorem numberOfDigits_zeros_append (count : Nat) (digits : List Nat) :
    Text.numberOfDigits 10 (List.replicate count 0 ++ digits) = Text.numberOfDigits 10 digits := by
  have zeros := numberOfDigits_append_zeros [] count
  rw [List.nil_append] at zeros
  rw [Json.numberOfDigits_append, zeros]
  simp [Text.numberOfDigits]

end Digits

namespace Json

open Number (plain scientific)

section Layouts

variable {decimal : Decimal} {negative : Bool}

/-- The digits and the exponent that are written for a decimal. A whole number has a zero after its point. -/
def written (decimal : Decimal) : Decimal :=
  if Number.Style.json.isPlain decimal.magnitude ∧ 0 ≤ decimal.exponent then
    ⟨decimal.digits * 10 ^ (decimal.exponent.toNat + 1), -1⟩
  else decimal

/-- The text spells a number of this amount, with an exponent that is no larger. -/
def SpellsAmount (text : List Char) (negative : Bool) (amount : Decimal) (largest : Nat) : Prop :=
  ∃ parts, SpellsParts text parts ∧ parts.negative = negative ∧ parts.amount = amount ∧
    Text.numberOfDigits 10 parts.exponent ≤ largest

/-- The text spells a number of this amount in digits with at most one point among them, and without an exponent. -/
inductive SpellsPlain (negative : Bool) : List Char → Decimal → Prop
  | parts {wholeText fractionText : List Char} {whole fraction : List Nat} (before : SpellsWhole wholeText whole)
      (after : SpellsFraction fractionText fraction) :
      SpellsPlain negative (minusSign negative ++ (wholeText ++ fractionText))
        ⟨Text.numberOfDigits 10 (whole ++ fraction), -(fraction.length : Int)⟩

theorem SpellsPlain.spellsAmount {text : List Char} (spelled : SpellsPlain negative text decimal) :
    SpellsAmount text negative decimal 0 := by
  obtain @⟨wholeText, fractionText, whole, fraction, before, after⟩ := spelled
  refine ⟨⟨negative, whole, fraction, false, []⟩, ?_, rfl, ?_, Nat.le_refl 0⟩
  · have parts := @SpellsParts.parts wholeText fractionText [] ⟨negative, whole, fraction, false, []⟩
      before after .none
    rwa [List.append_nil] at parts
  · have unscaled : NumberParts.scaling ⟨negative, whole, fraction, false, []⟩ = 0 := rfl
    simp only [NumberParts.amount, unscaled, zero_sub]

theorem spellsPlain_of_digits {wholeText fractionText : List Char} {whole fraction : List Nat}
    (before : SpellsWhole wholeText whole) (after : SpellsFraction fractionText fraction)
    (digits : Text.numberOfDigits 10 (whole ++ fraction) = decimal.digits)
    (exponent : -(fraction.length : Int) = decimal.exponent) :
    SpellsPlain negative (minusSign negative ++ (wholeText ++ fractionText)) decimal := by
  have spelled : SpellsPlain negative _ _ := .parts before after
  rwa [digits, exponent] at spelled

theorem length_digitText_pos (decimal : Decimal) : 0 < decimal.digitText.length :=
  Nat.length_toDigits_pos

section Plain

variable {ending : String} {places : Nat}

/-- A number less than one has zeros before its digits. -/
theorem spellsPlain_small (small : decimal.magnitude < 0) :
    SpellsPlain negative (minusSign negative ++ plain ending decimal) decimal := by
  obtain ⟨digits, spelled, number, given, -⟩ := exists_digitsOf decimal.digits
  have length : decimal.digitText.length = digits.length := List.Forall₂.length_eq spelled
  have some := length_digitText_pos decimal
  have zero : SpellsWhole ['0'] [0] := ⟨.cons rfl .nil, by simp, .inl rfl⟩
  have fraction : SpellsFraction ('.' :: (List.replicate (-decimal.magnitude - 1).toNat '0' ++ decimal.digitText))
      (List.replicate (-decimal.magnitude - 1).toNat 0 ++ digits) :=
    .point (List.rel_append (spellsDigits_zeros _) spelled) (by simp [given])
  have text : plain ending decimal =
      ['0'] ++ '.' :: (List.replicate (-decimal.magnitude - 1).toNat '0' ++ decimal.digitText) := by
    simp only [plain]
    rw [if_pos small]
    rfl
  rw [text]
  apply spellsPlain_of_digits zero fraction
  · have zeros := numberOfDigits_zeros_append ((-decimal.magnitude - 1).toNat + 1) digits
    rwa [List.replicate_succ, number] at zeros
  · rw [Decimal.magnitude] at small ⊢
    simp only [List.length_append, List.length_replicate]
    omega

/-- A whole number has zeros after its digits, and more after the point if its ending has any. -/
theorem spellsPlain_whole (whole : 0 ≤ decimal.exponent) (tidy : decimal.digits ≠ 0 ∨ decimal.exponent = 0)
    (zeros : SpellsFraction ending.toList (List.replicate places 0)) :
    SpellsPlain negative (minusSign negative ++ plain ending decimal)
      ⟨decimal.digits * 10 ^ (decimal.exponent.toNat + places), -(places : Int)⟩ := by
  obtain ⟨digits, spelled, number, given, nonzero⟩ := exists_digitsOf decimal.digits
  have large : ¬ decimal.magnitude < 0 := by
    rw [Decimal.magnitude]
    omega
  have before : SpellsWhole (decimal.digitText ++ List.replicate decimal.exponent.toNat '0')
      (digits ++ List.replicate decimal.exponent.toNat 0) := by
    refine ⟨List.rel_append spelled (spellsDigits_zeros _), by simp [given], ?_⟩
    rcases nonzero with rfl | nonzero
    · rw [numberOfDigits_singleton] at number
      left
      simp [tidy.resolve_left (not_not.2 number.symm)]
    · right
      rwa [List.head?_append_of_ne_nil _ given]
  have text : plain ending decimal =
      decimal.digitText ++ List.replicate decimal.exponent.toNat '0' ++ ending.toList := by
    simp only [plain]
    rw [if_neg large, if_pos whole]
  rw [text]
  apply spellsPlain_of_digits before zeros
  · rw [List.append_assoc, List.replicate_append_replicate, numberOfDigits_append_zeros, number]
  · rw [List.length_replicate]

/-- Other numbers have a point among their digits. -/
theorem spellsPlain_mixed (large : 0 ≤ decimal.magnitude) (broken : decimal.exponent < 0) :
    SpellsPlain negative (minusSign negative ++ plain ending decimal) decimal := by
  obtain ⟨digits, spelled, number, given, nonzero⟩ := exists_digitsOf decimal.digits
  have length : decimal.digitText.length = digits.length := List.Forall₂.length_eq spelled
  have many : decimal.magnitude.toNat + 1 < digits.length := by
    rw [Decimal.magnitude] at large ⊢
    omega
  have before : SpellsWhole (decimal.digitText.take (decimal.magnitude.toNat + 1))
      (digits.take (decimal.magnitude.toNat + 1)) := by
    refine ⟨List.forall₂_take _ spelled, by simp [given], .inr ?_⟩
    rcases nonzero with rfl | nonzero
    · simp at many
    · simpa [List.head?_take] using nonzero
  have after : SpellsFraction ('.' :: decimal.digitText.drop (decimal.magnitude.toNat + 1))
      (digits.drop (decimal.magnitude.toNat + 1)) :=
    .point (List.forall₂_drop _ spelled) (by simpa using many)
  have text : plain ending decimal = decimal.digitText.take (decimal.magnitude.toNat + 1) ++
      '.' :: decimal.digitText.drop (decimal.magnitude.toNat + 1) := by
    simp only [plain]
    rw [if_neg (by omega), if_neg (by omega)]
  rw [text]
  apply spellsPlain_of_digits before after
  · rw [List.take_append_drop, number]
  · rw [List.length_drop]
    rw [Decimal.magnitude] at large many ⊢
    omega

/-- The same value, a whole number with as many zeros behind the point as given. -/
def padded (places : Nat) (decimal : Decimal) : Decimal :=
  if 0 ≤ decimal.exponent then ⟨decimal.digits * 10 ^ (decimal.exponent.toNat + places), -(places : Int)⟩ else decimal

theorem value_padded (places : Nat) (decimal : Decimal) : (padded places decimal).value = decimal.value := by
  rw [padded]
  split
  · rename_i whole
    have exponent : decimal.exponent = decimal.exponent.toNat := (Int.toNat_of_nonneg whole).symm
    rw [Decimal.value, Decimal.value, exponent, zpow_natCast, Int.toNat_natCast, Nat.cast_mul, Nat.cast_pow,
      Nat.cast_ofNat, zpow_neg, zpow_natCast, pow_add]
    field_simp
  · rfl

/-- A decimal in plain form is spelled with the zeros that its ending adds. -/
theorem spellsPlain_plain (tidy : decimal.digits ≠ 0 ∨ decimal.exponent = 0)
    (zeros : SpellsFraction ending.toList (List.replicate places 0)) :
    SpellsPlain negative (minusSign negative ++ plain ending decimal) (padded places decimal) := by
  rw [padded]
  split
  · rename_i whole
    exact spellsPlain_whole whole tidy zeros
  · rename_i broken
    rcases Int.lt_or_le decimal.magnitude 0 with small | large
    · exact spellsPlain_small small
    · exact spellsPlain_mixed large (by omega)

end Plain

/-- Digits with a point after the first one, if there are more. -/
def pointed : List Char → List Char
  | first :: second :: rest => first :: '.' :: second :: rest
  | digits => digits

theorem exists_mantissa {text : List Char} {digits : List Nat} (spelled : SpellsDigits text digits)
    (given : digits ≠ []) :
    ∃ wholeText fractionText whole fraction, SpellsWhole wholeText whole ∧ SpellsFraction fractionText fraction ∧
      digits = whole ++ fraction ∧ fraction.length = digits.length - 1 ∧
        pointed text = wholeText ++ fractionText := by
  cases spelled with
  | nil => exact absurd rfl given
  | @cons c first tail rest digit others =>
      have whole : SpellsWhole [c] [first] := ⟨.cons digit .nil, by simp, by simpa using Decidable.em (first = 0)⟩
      cases others with
      | nil => exact ⟨[c], [], [first], [], whole, .none, rfl, rfl, rfl⟩
      | @cons _ second _ later _ _ =>
          exact ⟨[c], _, [first], second :: later, whole, .point (.cons ‹_› ‹_›) (by simp), rfl, rfl, rfl⟩

/-- A number with an exponent has one digit before the point. -/
theorem spellsAmount_scientific :
    SpellsAmount (minusSign negative ++ scientific decimal) negative decimal decimal.magnitude.natAbs := by
  obtain ⟨digits, spelled, number, given, -⟩ := exists_digitsOf decimal.digits
  obtain ⟨exponent, exponentSpelled, exponentNumber, exponentGiven, -⟩ := exists_digitsOf decimal.magnitude.natAbs
  have length : decimal.digitText.length = digits.length := List.Forall₂.length_eq spelled
  obtain ⟨wholeText, fractionText, whole, fraction, before, after, rfl, places, mantissa⟩ :=
    exists_mantissa spelled given
  have scaled : SpellsExponent
      ('e' :: ((if decimal.magnitude < 0 then ['-'] else ['+']) ++ Nat.toDigits 10 decimal.magnitude.natAbs))
      (decide (decimal.magnitude < 0)) exponent := by
    refine .marked (.inl rfl) ?_ exponentSpelled exponentGiven
    by_cases below : decimal.magnitude < 0
    · simpa [below] using Numeral.SpellsSign.minus
    · simpa [below] using Numeral.SpellsSign.plus
  have scaling : NumberParts.scaling ⟨negative, whole, fraction, decide (decimal.magnitude < 0), exponent⟩ =
      decimal.magnitude := by
    simp only [NumberParts.scaling, exponentNumber, decide_eq_true_eq]
    split <;> omega
  refine ⟨⟨negative, whole, fraction, decide (decimal.magnitude < 0), exponent⟩, ?_, rfl, ?_, exponentNumber.le⟩
  · have parts := @SpellsParts.parts _ _ _
      ⟨negative, whole, fraction, decide (decimal.magnitude < 0), exponent⟩ before after scaled
    rwa [← List.append_assoc wholeText, ← mantissa] at parts
  · have moved : decimal.magnitude - fraction.length = decimal.exponent := by
      rw [Decimal.magnitude]
      omega
    simp only [NumberParts.amount, scaling, number, moved]

end Layouts

section Doubles

variable {decimal : Decimal}

theorem SpellsAmount.mono {text : List Char} {negative : Bool} {amount : Decimal} {largest larger : Nat}
    (spelled : SpellsAmount text negative amount largest) (le : largest ≤ larger) :
    SpellsAmount text negative amount larger := by
  obtain ⟨parts, made, sign, amounts, small⟩ := spelled
  exact ⟨parts, made, sign, amounts, small.trans le⟩

theorem tidy_shortest (tie : Tie) (x : Double) : (x.shortest tie).digits ≠ 0 ∨ (x.shortest tie).exponent = 0 := by
  rcases Nat.eq_zero_or_pos x.mantissa with nothing | given
  · exact .inr (by rw [Binary.shortest_of_zero tie nothing])
  · exact .inl (Binary.digits_shortest_pos tie given).ne'

theorem toList_write (style : Number.Style) (x : Double) :
    (style.write x).toList = minusSign x.negative ++
      if style.isPlain (x.shortest style.tie).magnitude then plain style.wholeEnding (x.shortest style.tie)
      else scientific (x.shortest style.tie) := by
  rw [Number.Style.write, String.toList_ofList]
  cases x.negative <;> rfl

theorem written_of_isPlain (plainly : Number.Style.json.isPlain decimal.magnitude = true) :
    written decimal = padded 1 decimal := by
  simp only [written, padded, plainly, true_and]
  rfl

theorem written_of_not_isPlain (scaled : ¬ Number.Style.json.isPlain decimal.magnitude = true) :
    written decimal = decimal :=
  if_neg fun plainly => scaled plainly.1

/-- What is written for a double spells its shortest decimal. -/
theorem spellsAmount_write (x : Double) :
    SpellsAmount (Number.Style.json.write x).toList x.negative (written (x.shortest .toEven)) 400 := by
  have near := Binary.natAbs_magnitude_le .toEven Binary.within_binary64 x
  have tidy := tidy_shortest .toEven x
  have text : (Number.Style.json.write x).toList = minusSign x.negative ++
      if Number.Style.json.isPlain (x.shortest .toEven).magnitude then plain ".0" (x.shortest .toEven)
      else scientific (x.shortest .toEven) := toList_write Number.Style.json x
  rw [text]
  generalize x.shortest .toEven = decimal at *
  by_cases plainly : Number.Style.json.isPlain decimal.magnitude = true
  · have zero : SpellsFraction ".0".toList (List.replicate 1 0) := .point (.cons rfl .nil) (by simp)
    rw [if_pos plainly, written_of_isPlain plainly]
    exact (spellsPlain_plain tidy zero).spellsAmount.mono (Nat.zero_le _)
  · rw [if_neg plainly, written_of_not_isPlain plainly]
    exact spellsAmount_scientific.mono near

theorem digits_written_lt (x : Double) : (written (x.shortest .toEven)).digits < 2 ^ 64 := by
  have few := Binary.digits_shortest_le .toEven x
  rw [written]
  split
  · rename_i plainly
    obtain ⟨small, whole⟩ := plainly
    have digits := RoundingInterval.lt_ten_pow_length (x.shortest .toEven).digits
    have places : (x.shortest .toEven).digitText.length + ((x.shortest .toEven).exponent.toNat + 1) ≤ 17 := by
      have some := length_digitText_pos (x.shortest .toEven)
      simp only [Number.Style.json, Bool.and_eq_true, decide_eq_true_eq, Decimal.magnitude] at small
      omega
    calc (x.shortest .toEven).digits * 10 ^ ((x.shortest .toEven).exponent.toNat + 1)
        < 10 ^ (x.shortest .toEven).digitText.length * 10 ^ ((x.shortest .toEven).exponent.toNat + 1) :=
          Nat.mul_lt_mul_of_pos_right digits (Nat.pow_pos (by decide))
      _ = 10 ^ ((x.shortest .toEven).digitText.length + ((x.shortest .toEven).exponent.toNat + 1)) :=
          (Nat.pow_add 10 _ _).symm
      _ ≤ 10 ^ 17 := Nat.pow_le_pow_right (by decide) places
      _ < 2 ^ 64 := by decide
  · exact few.trans_lt (by decide)

/-- What is written for a double is a number. -/
theorem spellsNumber_write (x : Double) : SpellsNumber (Number.Style.json.write x).toList := by
  obtain ⟨parts, spelled, -⟩ := spellsAmount_write x
  exact spelled.spellsNumber

/-- What is written for a double is read by rounding its digits and multiplying or dividing them. -/
theorem double?_ofDouble (x : Double) :
    double? (ofDouble x) =
      (Binary.ofNat? binary64 (written (x.shortest .toEven)).digits).bind fun y =>
        (scaleBy? y (written (x.shortest .toEven)).exponent).map (signed x.negative) := by
  obtain ⟨parts, spelled, sign, amount, near⟩ := spellsAmount_write x
  have few : parts.amount.digits < 2 ^ 64 := by
    rw [amount]
    exact digits_written_lt x
  have read := spelled.doubleOfSpelling?_of_few few (near.trans_lt (by decide))
  rw [amount, sign] at read
  exact read

end Doubles

end Json

end FormRules
