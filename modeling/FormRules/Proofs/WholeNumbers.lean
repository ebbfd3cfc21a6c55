/-
This file says which texts are whole numbers of thirty-two bits: those of a sign, which may be missing, and any number
of digits whose value is within the range. Thirty-two bits are enough to read them digit by digit.
-/

import FormRules.Proofs.WrittenNumber
import Mathlib.Data.Nat.Digits.Defs

namespace FormRules

namespace Whole

open Numeral (SpellsSign SpellsDigits)

/-- The whole number of a size with a sign. -/
def ofSize (negative : Bool) (size : Nat) : Int :=
  if negative then -size else size

/-- A sign, which may be missing, and at least one digit. Each digit counts by its place. -/
inductive Spells : List Char → Int → Prop
  | parts {sign text : List Char} {negative : Bool} {digits : List Nat}
      (signed : SpellsSign sign negative) (spelled : SpellsDigits text digits) (given : digits ≠ []) :
      Spells (sign ++ text) (ofSize negative (Nat.ofDigits 10 digits.reverse))

/-- The number, if thirty-two bits have room for it. -/
def within32? (number : Int) : Option Int :=
  if -2147483648 ≤ number ∧ number ≤ 2147483647 then some number else none

/-- Takes up one more digit: a multiplication by ten, and a step away from zero. Either may leave the range. -/
def push32? (negative : Bool) (number : Int) (digit : Nat) : Option Int := do
  let tens ← within32? (number * 10)
  within32? (if negative then tens - digit else tens + digit)

/-- The number of a sign and digits, which are taken up one by one within thirty-two bits. -/
def gather32? (negative : Bool) (digits : List Nat) : Option Int :=
  digits.foldlM (push32? negative) 0

variable {text : List Char} {digits : List Nat} {negative : Bool} {number : Int} {size larger : Nat}

section Grammar

theorem numberOfDigits_eq_ofDigits (digits : List Nat) :
    Text.numberOfDigits 10 digits = Nat.ofDigits 10 digits.reverse := by
  induction digits using List.reverseRecOn with
  | nil => rfl
  | append_singleton digits digit inductionHypothesis =>
      rw [numberOfDigits_append_singleton, inductionHypothesis, List.reverse_append, List.reverse_singleton,
        List.singleton_append, Nat.ofDigits_cons]
      ring

theorem read?_append {sign : List Char} (signed : SpellsSign sign negative) (spelled : SpellsDigits text digits)
    (given : digits ≠ []) :
    read? (sign ++ text) = some (ofSize negative (Text.numberOfDigits 10 digits)) := by
  have run := Numeral.leadingDigits_append spelled Numeral.ends_nil
  rw [List.append_nil] at run
  have unsigned := fun c first =>
    Numeral.ne_sign_of_isSome_decimalDigit? (Numeral.head_of_spellsDigits spelled c first)
  simp [read?, Numeral.readSign_append signed unsigned, run, given, ofSize]

/-- The reader accepts just the texts that spell a whole number. -/
theorem read?_eq_some_iff : read? text = some number ↔ Spells text number := by
  constructor
  · intro read
    rcases sign : Numeral.readSign text with ⟨negative, unsigned⟩
    rcases run : Text.leadingDigits unsigned with ⟨digits, rest⟩
    simp only [read?, sign, run] at read
    split at read
    · cases read
    · rename_i complete
      obtain ⟨given, rfl⟩ : digits.isEmpty = false ∧ rest = [] := by simpa using complete
      obtain ⟨sign, signed, rfl⟩ := Numeral.exists_spellsSign_of_readSign sign
      obtain ⟨front, spelled, rfl, -⟩ := Numeral.exists_spellsDigits_of_leadingDigits run
      cases read
      rw [List.append_nil, numberOfDigits_eq_ofDigits]
      exact .parts signed spelled (by rintro rfl; cases given)
  · intro spells
    obtain ⟨signed, spelled, given⟩ := spells
    rw [read?_append signed spelled given, numberOfDigits_eq_ofDigits]

theorem fits32_iff :
    fits32 text = true ↔ ∃ number, Spells text number ∧ -2147483648 ≤ number ∧ number ≤ 2147483647 := by
  simp only [← read?_eq_some_iff, fits32]
  cases read? text with
  | none => simp
  | some number =>
      simp only [Bool.and_eq_true, decide_eq_true_eq, Option.some.injEq, exists_eq_left']
      omega

end Grammar

section Accumulation

theorem ofSize_push (negative : Bool) (size digit : Nat) :
    ofSize negative (size * 10 + digit) =
      if negative then ofSize negative size * 10 - digit else ofSize negative size * 10 + digit := by
  cases negative <;> simp only [ofSize, if_true, if_false, Bool.false_eq_true] <;> push_cast <;> ring

theorem within32?_eq_some_iff {room : Int} :
    within32? number = some room ↔ number = room ∧ -2147483648 ≤ number ∧ number ≤ 2147483647 := by
  rw [within32?, Option.ite_none_right_eq_some, Option.some.injEq, and_comm]

theorem within32?_eq_none_iff : within32? number = none ↔ ¬(-2147483648 ≤ number ∧ number ≤ 2147483647) := by
  rw [within32?, ite_eq_right_iff]
  simp

/-- A size that leaves the range does not come back into it by growing. -/
theorem within32?_eq_none_of_le (le : size ≤ larger) (outside : within32? (ofSize negative size) = none) :
    within32? (ofSize negative larger) = none := by
  rw [within32?_eq_none_iff] at outside ⊢
  cases negative <;> simp only [ofSize, if_true, if_false, Bool.false_eq_true] at outside ⊢ <;> omega

/-- One more digit leaves the range only if the number with this digit is outside of it. -/
theorem push32?_ofSize (negative : Bool) (size digit : Nat) :
    push32? negative (ofSize negative size) digit = within32? (ofSize negative (size * 10 + digit)) := by
  have tens : ofSize negative size * 10 = ofSize negative (size * 10) := by
    simpa using (ofSize_push negative size 0).symm
  rw [push32?, tens]
  cases room : within32? (ofSize negative (size * 10)) with
  | none => exact (within32?_eq_none_of_le (Nat.le_add_right _ digit) room).symm
  | some number =>
      obtain ⟨rfl, -⟩ := within32?_eq_some_iff.1 room
      rw [ofSize_push, ← tens]
      rfl

/-- However many digits there are, they are taken up within thirty-two bits if and only if their number is in the
range, and then they amount to it. -/
theorem gather32?_eq (negative : Bool) (digits : List Nat) :
    gather32? negative digits = within32? (ofSize negative (Text.numberOfDigits 10 digits)) := by
  induction digits using List.reverseRecOn with
  | nil => cases negative <;> rfl
  | append_singleton digits digit inductionHypothesis =>
      have before : digits.foldlM (push32? negative) 0 = _ := inductionHypothesis
      rw [gather32?, List.foldlM_append, before, numberOfDigits_append_singleton]
      cases room : within32? (ofSize negative (Text.numberOfDigits 10 digits)) with
      | none =>
          have less : Text.numberOfDigits 10 digits ≤ Text.numberOfDigits 10 digits * 10 + digit := by omega
          exact (within32?_eq_none_of_le less room).symm
      | some number =>
          obtain ⟨rfl, -⟩ := within32?_eq_some_iff.1 room
          show push32? negative (ofSize negative _) digit >>= pure = _
          rw [bind_pure, push32?_ofSize]

theorem fits32_append {sign : List Char} (signed : SpellsSign sign negative) (spelled : SpellsDigits text digits)
    (given : digits ≠ []) : fits32 (sign ++ text) = (gather32? negative digits).isSome := by
  rw [gather32?_eq, fits32, read?_append signed spelled given, Bool.eq_iff_iff, Option.isSome_iff_exists]
  simp only [within32?_eq_some_iff, exists_eq_left', Bool.and_eq_true, decide_eq_true_eq]
  omega

/-- Zeros in front of the digits make no difference. -/
theorem gather32?_zeros_append (negative : Bool) (zeros : Nat) (digits : List Nat) :
    gather32? negative (List.replicate zeros 0 ++ digits) = gather32? negative digits := by
  rw [gather32?_eq, gather32?_eq, numberOfDigits_zeros_append]

end Accumulation

/-- All that is not the sign of a whole number is an ASCII digit. -/
theorem exists_digits_of_spells (spells : Spells text number) :
    ∃ sign digits : List Char, text = sign ++ digits ∧ sign ∈ [[], ['+'], ['-']] ∧ digits ≠ [] ∧
      ∀ c ∈ digits, '0' ≤ c ∧ c ≤ '9' := by
  obtain @⟨sign, text, negative, digits, signed, spelled, given⟩ := spells
  refine ⟨sign, text, rfl, ?_, ?_, Numeral.range_of_spellsDigits spelled⟩
  · cases signed <;> simp
  · rintro rfl
    exact given (List.forall₂_nil_left_iff.1 spelled)

end Whole

namespace Kind

open Numeral (SpellsSign SpellsDigits)

theorem accepts_integer (value : String) : integer.accepts value = Whole.fits32 (Text.trim value).toList := by
  simp only [accepts]
  split
  · rename_i blank
    rw [blank]
    rfl
  · rfl

/-- The integers are the whole numbers of thirty-two bits with a sign, the least of which has no counterpart. No other
number is taken for one of them, however many digits it has: the digits are taken up within thirty-two bits if and only
if their number is in the range, and zeros in front of them do not matter. Nothing but ASCII digits may follow the
sign. -/
theorem integers_are_numerals_of_32_bits :
    (∀ value, integer.accepts value = true ↔
      ∃ number, Whole.Spells (Text.trim value).toList number ∧ -2147483648 ≤ number ∧ number ≤ 2147483647) ∧
    (∀ value sign text negative digits, (Text.trim value).toList = sign ++ text →
      SpellsSign sign negative → SpellsDigits text digits → digits ≠ [] →
        integer.accepts value = (Whole.gather32? negative digits).isSome ∧
        ∀ other zeros, (Text.trim other).toList = sign ++ (List.replicate zeros '0' ++ text) →
          integer.accepts other = integer.accepts value) ∧
    (∀ negative digits number, Whole.gather32? negative digits = some number ↔
      Whole.ofSize negative (Nat.ofDigits 10 digits.reverse) = number ∧
        -2147483648 ≤ number ∧ number ≤ 2147483647) ∧
    ∀ value, integer.accepts value = true →
      ∃ sign digits : List Char, (Text.trim value).toList = sign ++ digits ∧ sign ∈ [[], ['+'], ['-']] ∧
        digits ≠ [] ∧ ∀ c ∈ digits, '0' ≤ c ∧ c ≤ '9' := by
  refine ⟨?_, ?_, ?_, ?_⟩
  · intro value
    rw [accepts_integer]
    exact Whole.fits32_iff
  · intro value sign text negative digits written signed spelled given
    have accepted : integer.accepts value = (Whole.gather32? negative digits).isSome := by
      rw [accepts_integer, written, Whole.fits32_append signed spelled given]
    refine ⟨accepted, ?_⟩
    intro other zeros longer
    have padded : SpellsDigits (List.replicate zeros '0' ++ text) (List.replicate zeros 0 ++ digits) :=
      List.rel_append (spellsDigits_zeros zeros) spelled
    rw [accepted, accepts_integer, longer, Whole.fits32_append signed padded (by simp [given]),
      Whole.gather32?_zeros_append]
  · intro negative digits number
    rw [Whole.gather32?_eq, Whole.within32?_eq_some_iff, Whole.numberOfDigits_eq_ofDigits]
    apply and_congr_right
    rintro rfl
    rfl
  · intro value accepted
    rw [accepts_integer, Whole.fits32_iff] at accepted
    obtain ⟨number, spells, -⟩ := accepted
    exact Whole.exists_digits_of_spells spells

/-- The least integer may have zeros in front of it. Without its sign it is not accepted, and neither is a digit of
another script. -/
theorem least_integer_needs_its_sign :
    integer.accepts " -0002147483648 " = true ∧ integer.accepts "2147483648" = false ∧
      integer.accepts "\u0663" = false := by
  obtain ⟨-, gathered, -, digits⟩ := integers_are_numerals_of_32_bits
  have spelled : SpellsDigits ['2', '1', '4', '7', '4', '8', '3', '6', '4', '8'] [2, 1, 4, 7, 4, 8, 3, 6, 4, 8] :=
    .cons rfl (.cons rfl (.cons rfl (.cons rfl (.cons rfl (.cons rfl (.cons rfl (.cons rfl
      (.cons rfl (.cons rfl .nil)))))))))
  refine ⟨?_, ?_, ?_⟩
  · obtain ⟨least, padded⟩ := gathered "-2147483648" ['-'] _ true _ (by decide +kernel) .minus spelled (by decide)
    rw [padded " -0002147483648 " 3 (by decide +kernel), least]
    decide
  · obtain ⟨beyond, -⟩ := gathered "2147483648" [] _ false _ (by decide +kernel) .none spelled (by decide)
    rw [beyond]
    decide
  · by_contra accepted
    obtain ⟨sign, text, written, signed, given, ascii⟩ := digits "\u0663" (by simpa using accepted)
    have single : (Text.trim "\u0663").toList = ['\u0663'] := by decide +kernel
    have last : '\u0663' ∈ text := by
      simp only [List.mem_cons, List.not_mem_nil, or_false] at signed
      rcases signed with rfl | rfl | rfl <;> simp_all
    exact absurd (ascii '\u0663' last) (by decide)

end Kind

end FormRules
