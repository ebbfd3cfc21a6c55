/-
This file says which lengths pass a bound: a fractional lower bound is rounded up and a fractional upper one down. So
the two bounds with one natural number leave the values of just that many characters.
-/

import FormRules.Proofs.Conjunction
import FormRules.Proofs.NumberAgreement
import FormRules.Proofs.Rereading
import FormRules.Proofs.Writing
import FormRules.StandIn
import Mathlib.Data.Rat.Floor

namespace FormRules

namespace Binary

variable {format : Format} {x y : Binary format} {n count : Nat}

theorem value_le_natCast_iff : x.value ≤ n ↔ x.units ≤ (n * twoTo format.lowest : Nat) := by
  have scale : (0 : ℚ) < 2 ^ format.lowest := by positivity
  rw [value, div_le_iff₀ scale, ← cast_twoTo]
  exact_mod_cast Iff.rfl

theorem natCast_le_value_iff : n ≤ x.value ↔ (n * twoTo format.lowest : Nat) ≤ x.units := by
  have scale : (0 : ℚ) < 2 ^ format.lowest := by positivity
  rw [value, le_div_iff₀ scale, ← cast_twoTo]
  exact_mod_cast Iff.rfl

/-- A natural number that is rounded up to a number of the format was not larger before. -/
theorem natCast_le_value_of_ofNat? (precise : 0 < format.precision) (few : count < twoTo format.precision)
    {exponent : Nat} (within : exponent + format.lowest ≤ format.top) (le : count * twoTo exponent ≤ n)
    (rounded : ofNat? format n = some x) : (count * twoTo exponent : Nat) ≤ x.value := by
  obtain ⟨y, kept, sign, sized⟩ := exists_ofNat?_of_bits few within
  obtain ⟨positive, roundedSized⟩ := (ofQuotient?_eq_some_iff precise).1 rounded
  obtain ⟨-, keptSized⟩ := (ofQuotient?_eq_some_iff precise).1 kept
  have ordered : y.size ≤ x.size := by
    rw [keptSized, roundedSized]
    exact roundedSize_mono precise Nat.one_pos Nat.one_pos (by simpa using le)
  rw [natCast_le_value_iff, units, positive, ← sized]
  simpa using ordered

theorem value_of_ofNat? (few : n < twoTo format.precision) (within : format.lowest ≤ format.top)
    (rounded : ofNat? format n = some x) : x.value = n := by
  obtain ⟨y, kept, units⟩ := ofNat?_of_few few within
  cases Option.some.inj (rounded.symm.trans kept)
  apply le_antisymm
  · exact value_le_natCast_iff.2 units.le
  · exact natCast_le_value_iff.2 units.ge

end Binary

namespace Text

/-- The digits of a natural number, with zeros in front of them. -/
def decimal (zeros n : Nat) : String :=
  .ofList (List.replicate zeros '0' ++ Nat.toDigits 10 n)

theorem exists_spellsDigits_decimal (zeros n : Nat) :
    ∃ digits, Numeral.SpellsDigits (decimal zeros n).toList digits ∧ digits ≠ [] ∧ numberOfDigits 10 digits = n := by
  obtain ⟨digits, spelled, number, given, -⟩ := exists_digitsOf n
  refine ⟨List.replicate zeros 0 ++ digits, ?_, by simp [given], ?_⟩
  · rw [decimal, String.toList_ofList]
    exact List.rel_append (spellsDigits_zeros zeros) spelled
  · rw [numberOfDigits_zeros_append, number]

theorem range_of_mem_decimal {zeros n : Nat} : ∀ c ∈ (decimal zeros n).toList, '0' ≤ c ∧ c ≤ '9' := by
  obtain ⟨digits, spelled, -⟩ := exists_spellsDigits_decimal zeros n
  exact Numeral.range_of_spellsDigits spelled

theorem trim_decimal (zeros n : Nat) : trim (decimal zeros n) = decimal zeros n :=
  trim_of_solid fun c member => not_isBlank_of_range (range_of_mem_decimal c member)

end Text

namespace Value

/-- The digits of a natural number stand for the double nearest to it. -/
theorem numberOfText?_decimal (zeros n : Nat) :
    numberOfText? (Text.decimal zeros n) = Binary.ofNat? binary64 n := by
  obtain ⟨digits, spelled, given, number⟩ := Text.exists_spellsDigits_decimal zeros n
  have parts : Numeral.SpellsWith Numeral.exponentSize ([] ++ ((Text.decimal zeros n).toList ++ ([] ++ [])))
      ⟨false, Text.numberOfDigits 10 (digits ++ []), 0 - ([] : List Nat).length⟩ :=
    .parts .none spelled .none (by simpa using given) .none
  simp only [List.nil_append, List.append_nil, number, List.length_nil, Nat.cast_zero, sub_zero] at parts
  rw [numberOfText?, Text.trim_decimal, Binary.read?, Numeral.read?_eq_some_iff.2 parts, Option.bind_some,
    Binary.ofNumeral?, Binary.ofNat?]
  simp [Numeral.numerator, Numeral.denominator]

end Value

namespace Limit

variable {value : Option String} {bound : Double} {n : Nat}

theorem passes_minLength_iff (short : Value.length value < twoTo binary64.precision) :
    minLength.Passes bound value ↔ bound.value ≤ Value.length value := by
  rw [Binary.value_le_natCast_iff]
  exact Value.forall_lengthNumber?_iff short

theorem passes_maxLength_iff (short : Value.length value < twoTo binary64.precision) :
    maxLength.Passes bound value ↔ Value.length value ≤ bound.value := by
  rw [Binary.natCast_le_value_iff]
  exact Value.exists_lengthNumber?_iff short

/-- The two bounds with one number leave the values of just that length, even among those that are so long that their
length is rounded. -/
theorem passes_both_iff (few : n < twoTo binary64.precision) (whole : bound.value = n) :
    (minLength.Passes bound value ∧ maxLength.Passes bound value) ↔ Value.length value = n := by
  by_cases short : Value.length value < twoTo binary64.precision
  · rw [passes_minLength_iff short, passes_maxLength_iff short, whole, Nat.cast_le, Nat.cast_le]
    omega
  · have different : Value.length value ≠ n := by omega
    refine iff_of_false ?_ different
    rintro ⟨-, x, rounded, below⟩
    have long : 1 * twoTo 53 ≤ Value.length value := by simpa [binary64] using short
    have above := Binary.natCast_le_value_of_ofNat? (by decide) (by decide) (by decide) long rounded
    have most : x.value ≤ n := whole ▸ Binary.value_le_value_iff.2 below
    have less : n < 1 * twoTo 53 := by simpa [binary64] using few
    exact absurd (above.trans most) (not_le.2 (Nat.cast_lt.2 less))

end Limit

namespace Rule

variable {expectation : String} {bound : Double}

theorem length_checks_of_numberOfText? (read : Value.numberOfText? expectation = some bound)
    (value : Option String) :
    minLength.check value (some expectation) = .ok (decide (Limit.minLength.Passes bound value)) ∧
      maxLength.check value (some expectation) = .ok (decide (Limit.maxLength.Passes bound value)) :=
  ⟨Limit.minLength.check_of_expects (expects_of_numberOfText? read) value,
    Limit.maxLength.check_of_expects (expects_of_numberOfText? read) value⟩

end Rule

namespace Rulebook

variable {book : Rulebook} {value : Option String} {zeros n : Nat}

/-- The definition that asks for a number of characters, from above and from below. -/
def exactLength (digits : String) : String :=
  "minLength:" ++ digits ++ "; maxLength:" ++ digits

theorem spellable_decimal {name : String} (named : name ∈ ["minLength", "maxLength"]) :
    Clause.Spellable ⟨name, some (Text.decimal zeros n)⟩ := by
  have plain : ∀ name ∈ ["minLength", "maxLength"], Clause.PlainName name := by
    decide
  apply Clause.spellable_of_solid (plain name named)
  intro c member
  have range := Text.range_of_mem_decimal c member
  refine ⟨Text.not_isBlank_of_range range, ?_⟩
  rintro rfl
  exact absurd range (by decide)

theorem exactLength_eq (digits : String) :
    exactLength digits =
      (";" ++ " ").intercalate ([⟨"minLength", some digits⟩, ⟨"maxLength", some digits⟩].map (Clause.written "")) := by
  rw [← String.toList_inj]
  simp [exactLength, Clause.written]

/-- The definition is read if the book has both rules. -/
theorem read_exactLength (hasMin : book.find? "minLength" = some Rule.minLength)
    (hasMax : book.find? "maxLength" = some Rule.maxLength) :
    ∃ set, Definition.read book (exactLength (Text.decimal zeros n)) = .ok set ∧
      set.clauses = [⟨"minLength", some (Text.decimal zeros n)⟩, ⟨"maxLength", some (Text.decimal zeros n)⟩] := by
  have given : Text.decimal zeros n ≠ "" := by
    intro empty
    obtain ⟨digits, spelled, some, -⟩ := Text.exists_spellsDigits_decimal zeros n
    rw [empty] at spelled
    exact some (List.forall₂_nil_left_iff.1 spelled)
  have wellFormed : ∀ clause ∈ ([⟨"minLength", some (Text.decimal zeros n)⟩,
      ⟨"maxLength", some (Text.decimal zeros n)⟩] : List Clause), clause.Spellable ∧ book.Admits clause := by
    simp only [List.forall_mem_cons, List.not_mem_nil, false_implies, implies_true, and_true]
    exact ⟨⟨spellable_decimal (by simp), _, hasMin, by simp [given]⟩,
      spellable_decimal (by simp), _, hasMax, by simp [given]⟩
  refine ⟨_, exactLength_eq _ ▸ Definition.read_written " " "" Text.allBlank_space Text.allBlank_nil wellFormed, ?_⟩
  exact ClauseSet.clauses_ofList_of_nodup (by simp)

/-- The definition accepts the values of this length and no others. -/
theorem exists_check_exactLength (hasMin : book.find? "minLength" = some Rule.minLength)
    (hasMax : book.find? "maxLength" = some Rule.maxLength) (few : n < twoTo binary64.precision)
    (value : Option String) :
    ∃ verdict, book.check value (some (exactLength (Text.decimal zeros n))) = .ok verdict ∧
      (verdict.isValid = true ↔ Value.length value = n) := by
  obtain ⟨set, read, clauses⟩ := @read_exactLength book zeros n hasMin hasMax
  obtain ⟨bound, rounded, -⟩ := Binary.ofNat?_of_few few (by decide)
  have number : Value.numberOfText? (Text.decimal zeros n) = some bound := by
    rw [Value.numberOfText?_decimal, rounded]
  refine ⟨_, check_eq_of_read read, ?_⟩
  rw [isValid_checkClauses_iff_passes, clauses,
    ← Limit.passes_both_iff few (Binary.value_of_ofNat? few (by decide) rounded)]
  simp [apply, hasMin, hasMax, Rule.length_checks_of_numberOfText? number]

/-- Lengths are compared in characters, up to 2 ^ 53 of them exactly. A value has enough characters for a bound that is
rounded up and few enough for one that is rounded down, so that it passes one of the two bounds with the same number,
and both if this is its length. The two bounds with a natural number in decimal digits accept just the values of this
length. Blanks around a value do not belong to it. -/
theorem length_bounds_count_characters :
    (∀ value expectation bound, Value.length value < 2 ^ 53 → Value.numberOfText? expectation = some bound →
      Rule.minLength.check value (some expectation) = .ok (decide (⌈bound.value⌉ ≤ (Value.length value : ℤ))) ∧
      Rule.maxLength.check value (some expectation) = .ok (decide ((Value.length value : ℤ) ≤ ⌊bound.value⌋)) ∧
      (Rule.minLength.check value (some expectation) = .ok true ∨
        Rule.maxLength.check value (some expectation) = .ok true) ∧
      ((Rule.minLength.check value (some expectation) = .ok true ∧
          Rule.maxLength.check value (some expectation) = .ok true) ↔ (Value.length value : ℚ) = bound.value)) ∧
    (∀ book : Rulebook, book.find? "minLength" = some Rule.minLength →
      book.find? "maxLength" = some Rule.maxLength → ∀ n < 2 ^ 53, ∀ zeros value,
        ∃ verdict, book.check value (some (exactLength (Text.decimal zeros n))) = .ok verdict ∧
          (verdict.isValid = true ↔ Value.length value = n)) ∧
    (∀ before text after, Text.AllBlank before → Text.AllBlank after → Text.trimmed text = text →
      Value.length (some (.ofList (before ++ text ++ after))) = text.length) ∧
    Value.length none = 0 := by
  refine ⟨?_, ?_, ?_, rfl⟩
  · intro value expectation bound short read
    have enough : Limit.minLength.Passes bound value ↔ ⌈bound.value⌉ ≤ (Value.length value : ℤ) := by
      rw [Limit.passes_minLength_iff short, Int.ceil_le, Int.cast_natCast]
    have few : Limit.maxLength.Passes bound value ↔ (Value.length value : ℤ) ≤ ⌊bound.value⌋ := by
      rw [Limit.passes_maxLength_iff short, Int.le_floor, Int.cast_natCast]
    simp only [Rule.length_checks_of_numberOfText? read, Except.ok.injEq, decide_eq_true_eq]
    refine ⟨decide_eq_decide.2 enough, decide_eq_decide.2 few, ?_, ?_⟩
    · rw [Limit.passes_minLength_iff short, Limit.passes_maxLength_iff short]
      exact le_total _ _
    · rw [Limit.passes_minLength_iff short, Limit.passes_maxLength_iff short, and_comm]
      exact le_antisymm_iff.symm
  · intro book hasMin hasMax n few zeros value
    exact exists_check_exactLength hasMin hasMax few value
  · intro before text after frontBlank backBlank trims
    have inner : Text.trim (.ofList (before ++ text ++ after)) = .ofList text := by
      rw [Text.trim, String.toList_ofList, Text.trimmed_append_blank _ backBlank,
        Text.trimmed_blank_append frontBlank, trims]
    rw [Value.length, Value.text, Text.trimOrEmpty, inner, String.length_ofList]

open scoped StandIn

/-- Three characters of six bytes, with blanks around them, are at least and not at most two and a half. They are three,
with or without a zero in front. -/
theorem three_characters_of_six_bytes :
    Rule.minLength.check (some "\u3000n\u00e9\u65e5 ") (some " 2.5") = .ok true ∧
      Rule.maxLength.check (some "\u3000n\u00e9\u65e5 ") (some " 2.5") = .ok false ∧
      ∃ verdict, standard.check (some "\u3000n\u00e9\u65e5 ") (some (exactLength (Text.decimal 1 3))) = .ok verdict ∧
        verdict.isValid = true := by
  obtain ⟨bounds, exact, -, -⟩ := length_bounds_count_characters
  have three : Value.length (some "\u3000n\u00e9\u65e5 ") = 3 := by decide +kernel
  obtain ⟨bound, read, above, below⟩ : ∃ bound, Value.numberOfText? " 2.5" = some bound ∧
      bound.units ≤ (3 * twoTo binary64.lowest : Nat) ∧ ¬ (3 * twoTo binary64.lowest : Nat) ≤ bound.units :=
    ⟨⟨false, 5629499534213120, 1023, by decide, by decide, by decide⟩, by decide +kernel, by decide +kernel,
      by decide +kernel⟩
  rw [← Binary.value_le_natCast_iff] at above
  rw [← Binary.natCast_le_value_iff] at below
  obtain ⟨enough, few, -, -⟩ := bounds _ _ bound (by rw [three]; decide) read
  obtain ⟨verdict, checked, valid⟩ := exact standard rfl rfl 3 (by decide) 1 (some "\u3000n\u00e9\u65e5 ")
  refine ⟨?_, ?_, verdict, checked, valid.2 three⟩
  · rw [enough, three, decide_eq_true (Int.ceil_le.2 (by simpa using above))]
  · rw [few, three, decide_eq_false (mt Int.le_floor.1 (by simpa using below))]

end Rulebook

end FormRules
