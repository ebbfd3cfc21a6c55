/-
This file says which texts are decimal numerals and what they amount to, exponents of any size included. The
reader accepts just these texts. It may cut an exponent off, which makes no difference to what the numeral is
rounded to unless the text has tens of thousands of characters.
-/

import FormRules.Proofs.DecimalValue
import Mathlib.Algebra.Order.Field.Power
import Mathlib.Data.List.Forall2
import Mathlib.Data.List.Induction

namespace FormRules

namespace Numeral

/-- A run of ASCII digits. -/
def SpellsDigits (text : List Char) (digits : List Nat) : Prop :=
  List.Forall₂ (fun c digit => Text.decimalDigit? c = some digit) text digits

/-- A sign, which may be missing, and whether it negates. -/
inductive SpellsSign : List Char → Bool → Prop
  | none : SpellsSign [] false
  | plus : SpellsSign ['+'] false
  | minus : SpellsSign ['-'] true

/-- A point and the digits after it, or nothing. -/
inductive SpellsFraction : List Char → List Nat → Prop
  | none : SpellsFraction [] []
  | point {text : List Char} {digits : List Nat} (spelled : SpellsDigits text digits) :
      SpellsFraction ('.' :: text) digits

/-- A mark, perhaps a sign and at least one digit, or nothing. The size of the exponent is told from the digits
by `size`. -/
inductive SpellsExponent (size : List Nat → Nat) : List Char → Int → Prop
  | none : SpellsExponent size [] 0
  | marked {mark : Char} {sign text : List Char} {negative : Bool} {digits : List Nat}
      (isMark : mark = 'e' ∨ mark = 'E') (signed : SpellsSign sign negative)
      (spelled : SpellsDigits text digits) (given : digits ≠ []) :
      SpellsExponent size (mark :: (sign ++ text))
        (if negative then -(size digits : Int) else size digits)

/-- A sign, digits with a point somewhere, at least one digit in all, and an exponent. All but the digit may be
missing. -/
inductive SpellsWith (size : List Nat → Nat) : List Char → Numeral → Prop
  | parts {sign whole fraction exponent : List Char} {negative : Bool} {front back : List Nat} {scale : Int}
      (signed : SpellsSign sign negative) (before : SpellsDigits whole front)
      (after : SpellsFraction fraction back) (given : front ++ back ≠ [])
      (scaled : SpellsExponent size exponent scale) :
      SpellsWith size (sign ++ (whole ++ (fraction ++ exponent)))
        ⟨negative, Text.numberOfDigits 10 (front ++ back), scale - back.length⟩

/-- The text spells the numeral, whose exponent is what all its digits say. -/
abbrev Spells : List Char → Numeral → Prop :=
  SpellsWith (Text.numberOfDigits 10)

/-- A text after which a run of digits ends. -/
def Ends (text : List Char) : Prop :=
  ∀ c ∈ text.head?, Text.decimalDigit? c = none

variable {text rest : List Char} {digits : List Nat}

theorem ends_nil : Ends [] := by
  simp [Ends]

theorem ends_cons {c : Char} (other : Text.decimalDigit? c = none) : Ends (c :: rest) := by
  simpa [Ends] using other

theorem leadingDigits_append (spelled : SpellsDigits text digits) (ends : Ends rest) :
    Text.leadingDigits (text ++ rest) = (digits, rest) := by
  induction spelled with
  | nil =>
      cases rest with
      | nil => rfl
      | cons c rest => simp [Text.leadingDigits, ends c rfl]
  | cons digit _ inductionHypothesis =>
      simp [Text.leadingDigits, digit, inductionHypothesis]

theorem exists_spellsDigits_of_leadingDigits (read : Text.leadingDigits text = (digits, rest)) :
    ∃ front, SpellsDigits front digits ∧ text = front ++ rest ∧ Ends rest := by
  induction text generalizing digits with
  | nil =>
      cases read
      exact ⟨[], .nil, rfl, ends_nil⟩
  | cons c text inductionHypothesis =>
      rw [Text.leadingDigits] at read
      split at read
      · rename_i digit isDigit
        obtain ⟨rfl, rfl⟩ := Prod.mk.inj read
        obtain ⟨front, spelled, split, ends⟩ := inductionHypothesis rfl
        exact ⟨c :: front, .cons isDigit spelled, congrArg (c :: ·) split, ends⟩
      · rename_i other
        cases read
        exact ⟨[], .nil, rfl, ends_cons other⟩

theorem exists_spellsSign_of_readSign {negative : Bool} (read : readSign text = (negative, rest)) :
    ∃ sign, SpellsSign sign negative ∧ text = sign ++ rest := by
  unfold readSign at read
  split at read
  · cases read
    exact ⟨_, .minus, rfl⟩
  · cases read
    exact ⟨_, .plus, rfl⟩
  · cases read
    exact ⟨_, .none, rfl⟩

theorem readSign_append {sign : List Char} {negative : Bool} (signed : SpellsSign sign negative)
    (unsigned : ∀ c ∈ rest.head?, c ≠ '-' ∧ c ≠ '+') : readSign (sign ++ rest) = (negative, rest) := by
  cases signed with
  | none =>
      simp only [List.nil_append]
      unfold readSign
      split
      · simp at unsigned
      · simp at unsigned
      · rfl
  | plus => rfl
  | minus => rfl

theorem head_append {holds : Char → Prop} (front : ∀ c ∈ text.head?, holds c)
    (back : ∀ c ∈ rest.head?, holds c) : ∀ c ∈ (text ++ rest).head?, holds c := by
  cases text with
  | nil => exact back
  | cons _ _ => exact front

theorem head_of_spellsDigits (spelled : SpellsDigits text digits) :
    ∀ c ∈ text.head?, (Text.decimalDigit? c).isSome = true := by
  cases spelled with
  | nil => simp
  | cons digit _ => simp [digit]

theorem ne_sign_of_isSome_decimalDigit? {c : Char} (digit : (Text.decimalDigit? c).isSome = true) :
    c ≠ '-' ∧ c ≠ '+' := by
  constructor <;> rintro rfl <;> exact absurd digit (by decide)

theorem readExponent_eq_some_iff {scale : Int} :
    readExponent text = some scale ↔ SpellsExponent exponentSize text scale := by
  constructor
  · intro read
    cases text with
    | nil =>
        cases read
        exact .none
    | cons mark text =>
        rw [readExponent] at read
        split at read
        · rename_i isMark
          rcases sign : readSign text with ⟨negative, unsigned⟩
          rcases run : Text.leadingDigits unsigned with ⟨digits, rest⟩
          simp only [sign, run] at read
          split at read
          · cases read
          · rename_i complete
            obtain ⟨given, rfl⟩ : digits.isEmpty = false ∧ rest = [] := by simpa using complete
            obtain ⟨sign, signed, rfl⟩ := exists_spellsSign_of_readSign sign
            obtain ⟨front, spelled, rfl, -⟩ := exists_spellsDigits_of_leadingDigits run
            rw [List.append_nil]
            have made : SpellsExponent exponentSize _ _ := .marked isMark signed spelled
              (by rintro rfl; cases given)
            cases negative <;> cases read <;> exact made
        · cases read
  · intro spelled
    cases spelled with
    | none => rfl
    | @marked mark sign text negative digits isMark signed spelled given =>
        have run := leadingDigits_append spelled ends_nil
        rw [List.append_nil] at run
        have unsigned := fun c first => ne_sign_of_isSome_decimalDigit? (head_of_spellsDigits spelled c first)
        rw [readExponent, if_pos isMark, readSign_append signed unsigned]
        cases negative <;> simp [run, given]

theorem SpellsExponent.head {size : List Nat → Nat} {scale : Int} (scaled : SpellsExponent size text scale) :
    ∀ c ∈ text.head?, c = 'e' ∨ c = 'E' := by
  cases scaled with
  | none => simp
  | marked isMark _ _ _ => simpa using isMark

theorem SpellsExponent.ends {size : List Nat → Nat} {scale : Int} (scaled : SpellsExponent size text scale) :
    Ends text := by
  intro c first
  rcases scaled.head c first with rfl | rfl <;> decide

theorem SpellsFraction.head (after : SpellsFraction text digits) : ∀ c ∈ text.head?, c = '.' := by
  cases after with
  | none => simp
  | point _ => simp

theorem SpellsFraction.ends_append (after : SpellsFraction text digits) (ends : Ends rest) :
    Ends (text ++ rest) :=
  head_append (fun c first => by rw [after.head c first]; decide) ends

/-- Reads a point and the digits after it, which may be missing. -/
def readFraction : List Char → List Nat × List Char
  | '.' :: rest => Text.leadingDigits rest
  | rest => ([], rest)

theorem exists_spellsFraction_of_readFraction (read : readFraction text = (digits, rest)) :
    ∃ fraction, SpellsFraction fraction digits ∧ text = fraction ++ rest := by
  unfold readFraction at read
  split at read
  · obtain ⟨front, spelled, rfl, -⟩ := exists_spellsDigits_of_leadingDigits read
    exact ⟨'.' :: front, .point spelled, rfl⟩
  · cases read
    exact ⟨[], .none, rfl⟩

theorem readFraction_append (after : SpellsFraction text digits) (ends : Ends rest)
    (pointless : ∀ c ∈ rest.head?, c ≠ '.') : readFraction (text ++ rest) = (digits, rest) := by
  cases after with
  | none =>
      unfold readFraction
      split
      · rename_i same
        cases same
        exact absurd rfl (pointless '.' rfl)
      · rfl
  | point spelled => exact leadingDigits_append spelled ends

/-- The reader accepts the numerals and no other text. -/
theorem read?_eq_some_iff {numeral : Numeral} :
    read? text = some numeral ↔ SpellsWith exponentSize text numeral := by
  have parts : ∀ text, read? text =
      if (Text.leadingDigits (readSign text).2).1.isEmpty &&
          (readFraction (Text.leadingDigits (readSign text).2).2).1.isEmpty then none
      else (readExponent (readFraction (Text.leadingDigits (readSign text).2).2).2).map fun scale =>
        ⟨(readSign text).1,
          Text.numberOfDigits 10 ((Text.leadingDigits (readSign text).2).1 ++
            (readFraction (Text.leadingDigits (readSign text).2).2).1),
          scale - (readFraction (Text.leadingDigits (readSign text).2).2).1.length⟩ := by
    intro text
    rw [Option.map_eq_bind]
    rfl
  rw [parts]
  constructor
  · intro read
    rcases sign : readSign text with ⟨negative, unsigned⟩
    rcases run : Text.leadingDigits unsigned with ⟨front, pointed⟩
    rcases decimals : readFraction pointed with ⟨back, marked⟩
    simp only [sign, run, decimals] at read
    split at read
    · cases read
    · rename_i digit
      obtain ⟨scale, scaled, rfl⟩ := Option.map_eq_some_iff.1 read
      obtain ⟨sign, signed, rfl⟩ := exists_spellsSign_of_readSign sign
      obtain ⟨whole, before, rfl, -⟩ := exists_spellsDigits_of_leadingDigits run
      obtain ⟨fraction, after, rfl⟩ := exists_spellsFraction_of_readFraction decimals
      refine .parts signed before after ?_ (readExponent_eq_some_iff.1 scaled)
      intro nothing
      obtain ⟨rfl, rfl⟩ := List.append_eq_nil_iff.1 nothing
      exact digit rfl
  · rintro ⟨signed, before, after, given, scaled⟩
    have unsigned := head_append
      (fun c first => ne_sign_of_isSome_decimalDigit? (head_of_spellsDigits before c first))
      (head_append (fun c first => by rw [after.head c first]; decide)
        (fun c first => by rcases scaled.head c first with rfl | rfl <;> decide))
    have pointless : ∀ c ∈ List.head? _, c ≠ '.' := fun c first => by
      rcases scaled.head c first with rfl | rfl <;> decide
    simp only [readSign_append signed unsigned, leadingDigits_append before (after.ends_append scaled.ends),
      readFraction_append after scaled.ends pointless, readExponent_eq_some_iff.2 scaled, Option.map_some]
    rw [if_neg (by simpa using given)]

/-- Numbers that are the same, or both large enough for an exponent to be cut off. -/
def SameOrLarge (first second : Nat) : Prop :=
  first = second ∨ 65536 ≤ first ∧ 65536 ≤ second

theorem sameOrLarge_exponentSize (digits : List Nat) :
    SameOrLarge (exponentSize digits) (Text.numberOfDigits 10 digits) := by
  induction digits using List.reverseRecOn with
  | nil => exact .inl rfl
  | append_singleton digits digit inductionHypothesis =>
      unfold exponentSize Text.numberOfDigits SameOrLarge at *
      rw [List.foldl_append, List.foldl_append, List.foldl_cons, List.foldl_cons, List.foldl_nil,
        List.foldl_nil]
      split <;> omega

theorem decimalDigit?_lt {c : Char} {digit : Nat} (spelled : Text.decimalDigit? c = some digit) :
    digit < 10 := by
  unfold Text.decimalDigit? at spelled
  split at spelled
  · rename_i range
    have least : '0'.toNat ≤ c.toNat := range.1
    have most : c.toNat ≤ '9'.toNat := range.2
    cases spelled
    have : '9'.toNat = '0'.toNat + 9 := rfl
    omega
  · cases spelled

/-- A run of digits holds ASCII digits only. -/
theorem range_of_spellsDigits (spelled : SpellsDigits text digits) : ∀ c ∈ text, '0' ≤ c ∧ c ≤ '9' := by
  induction spelled with
  | nil => simp
  | @cons c digit _ _ first _ inductionHypothesis =>
      have range : '0' ≤ c ∧ c ≤ '9' := by
        by_contra other
        rw [Text.decimalDigit?, if_neg other] at first
        cases first
      exact List.forall_mem_cons.2 ⟨range, inductionHypothesis⟩

theorem digits_lt (spelled : SpellsDigits text digits) : ∀ digit ∈ digits, digit < 10 := by
  induction spelled with
  | nil => simp
  | cons digit _ inductionHypothesis =>
      simpa using ⟨decimalDigit?_lt digit, inductionHypothesis⟩

theorem numberOfDigits_lt (small : ∀ digit ∈ digits, digit < 10) :
    Text.numberOfDigits 10 digits < 10 ^ digits.length := by
  induction digits using List.reverseRecOn with
  | nil => decide
  | append_singleton digits digit inductionHypothesis =>
      have front := inductionHypothesis (fun other member => small other (by simp [member]))
      have back := small digit (by simp)
      unfold Text.numberOfDigits at *
      rw [List.foldl_append, List.foldl_cons, List.foldl_nil, List.length_append, List.length_singleton,
        Nat.pow_succ]
      omega

/-- An exponent, and what is left of it once it is cut off. -/
inductive CutTo : Int → Int → Prop
  | whole (scale : Int) : CutTo scale scale
  | high {scale cut : Int} (large : 65536 ≤ scale) (cutLarge : 65536 ≤ cut) : CutTo scale cut
  | low {scale cut : Int} (small : scale ≤ -65536) (cutSmall : cut ≤ -65536) : CutTo scale cut

theorem exists_cut_of_spellsExponent {scale : Int}
    (scaled : SpellsExponent (Text.numberOfDigits 10) text scale) :
    ∃ cut, SpellsExponent exponentSize text cut ∧ CutTo scale cut := by
  cases scaled with
  | none => exact ⟨0, .none, .whole 0⟩
  | @marked mark sign text negative digits isMark signed spelled given =>
      refine ⟨_, .marked isMark signed spelled given, ?_⟩
      rcases sameOrLarge_exponentSize digits with same | ⟨cutLarge, large⟩
      · rw [same]
        exact .whole _
      · cases negative
        · exact .high (by simpa using large) (by simpa using cutLarge)
        · exact .low (by simpa using large) (by simpa using cutLarge)

theorem SpellsFraction.length_le (after : SpellsFraction text digits) : digits.length ≤ text.length := by
  cases after with
  | none => simp
  | point spelled =>
      rw [List.length_cons, List.Forall₂.length_eq spelled]
      omega

theorem SpellsFraction.digits_lt (after : SpellsFraction text digits) : ∀ digit ∈ digits, digit < 10 := by
  cases after with
  | none => simp
  | point spelled => exact Numeral.digits_lt spelled

/-- The numeral that is read when the exponent is cut off. It has the digits of the numeral that is spelled, and
an exponent moved by as many places of the fraction. -/
theorem exists_cut_of_spells {numeral : Numeral} (spelled : Spells text numeral) :
    ∃ (scale cut : Int) (places : Nat), CutTo scale cut ∧ places ≤ text.length ∧
      numeral.digits < 10 ^ text.length ∧ numeral.exponent = scale - places ∧
        SpellsWith exponentSize text ⟨numeral.negative, numeral.digits, cut - places⟩ := by
  obtain @⟨sign, whole, fraction, exponent, negative, front, back, scale, signed, before, after, given,
    scaled⟩ := spelled
  obtain ⟨cut, cutScaled, related⟩ := exists_cut_of_spellsExponent scaled
  have backLength := after.length_le
  have frontLength := List.Forall₂.length_eq before
  refine ⟨scale, cut, back.length, related, ?_, ?_, rfl, .parts signed before after given cutScaled⟩
  · simp only [List.length_append]
    omega
  · have small : ∀ digit ∈ front ++ back, digit < 10 := by
      intro digit member
      rcases List.mem_append.1 member with member | member
      · exact digits_lt before digit member
      · exact after.digits_lt digit member
    refine (numberOfDigits_lt small).trans_le (Nat.pow_le_pow_right (by omega) ?_)
    simp only [List.length_append]
    omega

/-- Which texts spell a numeral does not depend on what their exponents amount to. -/
theorem SpellsWith.exists_of_size {size : List Nat → Nat} {numeral : Numeral}
    (spelled : SpellsWith size text numeral) (other : List Nat → Nat) : ∃ numeral, SpellsWith other text numeral := by
  obtain ⟨signed, before, after, given, scaled⟩ := spelled
  cases scaled with
  | none => exact ⟨_, .parts signed before after given .none⟩
  | marked isMark signedScale spelledScale givenScale =>
      exact ⟨_, .parts signed before after given (.marked isMark signedScale spelledScale givenScale)⟩

/-- The exponent of the text, if there is one, has at most four characters after its mark. -/
def ShortExponent (text : List Char) : Prop :=
  ∀ mark back, mark = 'e' ∨ mark = 'E' → mark :: back <:+ text → back.length ≤ 4

/-- A short exponent is never cut off. -/
theorem Spells.of_shortExponent {numeral : Numeral} (spelled : Spells text numeral)
    (short : ShortExponent text) : SpellsWith exponentSize text numeral := by
  obtain ⟨signed, before, after, given, scaled⟩ := spelled
  refine .parts signed before after given ?_
  cases scaled with
  | none => exact .none
  | @marked mark sign text negative digits isMark signed spelled given =>
      have few := short mark (sign ++ text) isMark (by simp [← List.append_assoc])
      rw [List.length_append, List.Forall₂.length_eq spelled] at few
      have small : Text.numberOfDigits 10 digits < 10 ^ 4 :=
        (numberOfDigits_lt (digits_lt spelled)).trans_le
          (Nat.pow_le_pow_right (by decide) ((Nat.le_add_left _ _).trans few))
      rcases sameOrLarge_exponentSize digits with same | ⟨-, large⟩
      · rw [← same]
        exact .marked isMark signed spelled given
      · omega

end Numeral

namespace Binary

variable {format : Format}

/-- A numeral of no more than half of the smallest positive number is rounded to zero. -/
theorem ofNumeral?_of_tiny (precise : 0 < format.precision) {numeral : Numeral}
    (tiny : |numeral.value| * (2 * 2 ^ format.lowest) ≤ 1) :
    ofNumeral? format numeral = some (zero numeral.negative) := by
  have positive : (0 : ℚ) < numeral.denominator := by exact_mod_cast numeral.denominator_pos
  have half : 2 * (numeral.numerator * twoTo format.lowest) ≤ numeral.denominator := by
    rw [Numeral.abs_value, div_mul_eq_mul_div, div_le_one positive, ← cast_twoTo] at tiny
    have : numeral.numerator * (2 * twoTo format.lowest) ≤ numeral.denominator := by exact_mod_cast tiny
    linarith
  have below : numeral.numerator * twoTo format.lowest / numeral.denominator = 0 :=
    Nat.div_eq_of_lt (by have := numeral.denominator_pos; omega)
  have lowest : exponentFor format 0 = 0 := by simp [exponentFor, twoTo_pos]
  have nothing : roundToEven (numeral.numerator * twoTo format.lowest) numeral.denominator ≤ 0 :=
    (roundToEven_le_iff numeral.denominator_pos).2 (by omega)
  rw [ofNumeral?, ofQuotient?_eq_some_iff precise]
  refine ⟨rfl, ?_⟩
  simp only [roundedSize, below, lowest, twoTo_zero, Nat.mul_one, Nat.le_zero.1 nothing]
  rfl

/-- A numeral beyond the limit is rounded to no number. -/
theorem ofNumeral?_of_large (precise : 0 < format.precision) {numeral : Numeral}
    (large : limit format ≤ |numeral.value|) : ofNumeral? format numeral = none := by
  rw [Option.eq_none_iff_forall_ne_some]
  intro x rounded
  exact absurd ((exists_ofNumeral?_iff precise).1 ⟨x, rounded⟩) (not_lt.2 large)

/-- The format ends within so many powers of ten, above and, at half of the smallest positive number, below. -/
structure Within (format : Format) (reach : Nat) : Prop where
  precise : 0 < format.precision
  limit_le : limit format ≤ 10 ^ reach
  lowest_le : 2 * 2 ^ format.lowest ≤ (10 : ℚ) ^ reach

theorem within_of_twoTo {total exponent : Nat} (precise : 0 < format.precision)
    (equal : limit format = 2 ^ total - 2 ^ exponent) (above : total ≤ 1075) (below : format.lowest + 1 ≤ 1075) :
    Within format 400 := by
  have two : ∀ {power : Nat}, power ≤ 1075 → (2 : ℚ) ^ power ≤ 10 ^ 400 := by
    intro power small
    calc (2 : ℚ) ^ power ≤ 2 ^ (43 * 25) := pow_le_pow_right₀ (by norm_num) small
      _ = (2 ^ 43) ^ 25 := pow_mul 2 43 25
      _ ≤ (10 ^ 16) ^ 25 := pow_le_pow_left₀ (by norm_num) (by norm_num) 25
      _ = 10 ^ 400 := (pow_mul 10 16 25).symm
  refine ⟨precise, ?_, ?_⟩
  · rw [equal]
    exact (sub_le_self _ (by positivity)).trans (two above)
  · rw [← pow_succ']
    exact two below

theorem within_binary64 : Within binary64 400 :=
  within_of_twoTo (by decide) limit_binary64 (by decide) (by decide)

theorem within_binary32 : Within binary32 400 :=
  within_of_twoTo (by decide) limit_binary32 (by decide) (by decide)

section Extreme

variable {reach : Nat} {negative : Bool} {digits : Nat} {exponent : Int}

theorem abs_value_parts : |(⟨negative, digits, exponent⟩ : Numeral).value| = digits * 10 ^ exponent := by
  rw [Numeral.abs_value, Numeral.numerator_div_denominator]

theorem ofNumeral?_of_high (within : Within format reach) (given : 0 < digits) (high : reach ≤ exponent) :
    ofNumeral? format ⟨negative, digits, exponent⟩ = none := by
  apply ofNumeral?_of_large within.precise
  have one : (1 : ℚ) ≤ digits := by exact_mod_cast given
  calc limit format ≤ 10 ^ reach := within.limit_le
    _ = 10 ^ (reach : ℤ) := (zpow_natCast 10 reach).symm
    _ ≤ 10 ^ exponent := zpow_le_zpow_right₀ (by norm_num) high
    _ ≤ digits * 10 ^ exponent := le_mul_of_one_le_left (by positivity) one
    _ = _ := abs_value_parts.symm

theorem ofNumeral?_of_low (within : Within format reach) {length : Nat} (few : digits < 10 ^ length)
    (low : exponent ≤ -reach - length) :
    ofNumeral? format ⟨negative, digits, exponent⟩ = some (zero negative) := by
  apply ofNumeral?_of_tiny within.precise
  have few : (digits : ℚ) ≤ 10 ^ (length : ℤ) := by
    rw [zpow_natCast]
    exact_mod_cast few.le
  have small : (10 : ℚ) ^ exponent ≤ 10 ^ (-reach - length : ℤ) := zpow_le_zpow_right₀ (by norm_num) low
  have fine : 2 * 2 ^ format.lowest ≤ (10 : ℚ) ^ (reach : ℤ) := by
    rw [zpow_natCast]
    exact within.lowest_le
  rw [abs_value_parts]
  calc (digits : ℚ) * 10 ^ exponent * (2 * 2 ^ format.lowest)
      ≤ 10 ^ (length : ℤ) * 10 ^ (-reach - length : ℤ) * 10 ^ (reach : ℤ) := by gcongr
    _ = 10 ^ (length + (-reach - length) + reach : ℤ) := by
        rw [zpow_add₀ (by norm_num), zpow_add₀ (by norm_num)]
    _ = 1 := by
        rw [show (length + (-reach - length) + reach : ℤ) = 0 by ring, zpow_zero]

theorem ofNumeral?_of_zero (precise : 0 < format.precision) :
    ofNumeral? format ⟨negative, 0, exponent⟩ = some (zero negative) :=
  ofNumeral?_of_tiny precise (by simp [abs_value_parts])

end Extreme

/-- The reader gives the number nearest to what the text spells, all of the exponent taken into account. Only a
text of tens of thousands of characters that also has a long exponent may be read otherwise. -/
def ReadsNearest (format : Format) (text : String) : Prop :=
  ∀ numeral, Numeral.Spells text.toList numeral →
    read? format text.toList = ofNumeral? format numeral

/-- It does not matter how many digits a text has if its exponent is short. -/
theorem readsNearest_of_shortExponent {text : String} (short : Numeral.ShortExponent text.toList) :
    ReadsNearest format text := by
  intro numeral spelled
  rw [read?, Numeral.read?_eq_some_iff.2 (spelled.of_shortExponent short), Option.bind_some]

/-- No text of at most 65000 characters has so many digits that it matters where its exponent is cut off. -/
theorem readsNearest_of_length_le (within : Within format 400) {text : String}
    (short : text.length ≤ 65000) : ReadsNearest format text := by
  intro numeral spelled
  obtain ⟨negative, digits, exponent⟩ := numeral
  obtain ⟨scale, cut, places, related, atMost, few, moved, cutSpelled⟩ :=
    Numeral.exists_cut_of_spells spelled
  rw [String.length_toList] at atMost few
  subst moved
  rw [read?, Numeral.read?_eq_some_iff.2 cutSpelled, Option.bind_some]
  rcases Nat.eq_zero_or_pos digits with rfl | given
  · rw [ofNumeral?_of_zero within.precise, ofNumeral?_of_zero within.precise]
  · cases related with
    | whole => rfl
    | high large cutLarge =>
        rw [ofNumeral?_of_high within given (by omega), ofNumeral?_of_high within given (by omega)]
    | low small cutSmall =>
        rw [ofNumeral?_of_low within few (by omega), ofNumeral?_of_low within few (by omega)]

end Binary

end FormRules
