/-
This file says which texts are values of the kinds of binary numbers: the numerals within the range of the format.
The rules that take a bound accept the expectations that are values of the kind of double precision.
-/

import FormRules.Proofs.Misconfiguration
import FormRules.Proofs.NumeralText

namespace FormRules

namespace Numeral

/-- The text spells a numeral whose size is less than the limit. -/
def SpellsBelow (limit : ℚ) (text : String) : Prop :=
  ∃ numeral, Spells text.toList numeral ∧ |numeral.value| < limit

end Numeral

namespace Binary

variable {format : Format} {text : String}

/-- The texts that are read are the numerals within the limit of the format. -/
theorem exists_read?_iff (precise : 0 < format.precision) (nearest : ReadsNearest format text) :
    (∃ x, read? format text.toList = some x) ↔ Numeral.SpellsBelow (limit format) text := by
  constructor
  · intro found
    obtain ⟨x, read⟩ := found
    obtain ⟨cut, spelled, -⟩ := Option.bind_eq_some_iff.1 read
    obtain ⟨numeral, spelled⟩ :=
      (Numeral.read?_eq_some_iff.1 spelled).exists_of_size (Text.numberOfDigits 10)
    rw [nearest numeral spelled] at read
    exact ⟨numeral, spelled, (exists_ofNumeral?_iff precise).1 ⟨x, read⟩⟩
  · intro spelledBelow
    obtain ⟨numeral, spelled, small⟩ := spelledBelow
    rw [nearest numeral spelled]
    exact (exists_ofNumeral?_iff precise).2 small

theorem not_read?_nil (x : Binary format) : read? format [] ≠ some x := by
  simp [read?, show Numeral.read? [] = none from rfl]

end Binary

namespace Kind

variable {value : String}

/-- The format of the values of a kind, if they are binary numbers. -/
def format? : Kind → Option Format
  | .double => some binary64
  | .float => some binary32
  | _ => none

theorem accepts_iff_exists_read? {kind : Kind} {format : Format} (binary : kind.format? = some format) :
    kind.accepts value = true ↔ ∃ x, Binary.read? format (Text.trim value).toList = some x := by
  have reads : kind.accepts value =
      if Text.trim value = "" then false else (Binary.read? format (Text.trim value).toList).isSome := by
    cases kind <;> cases binary <;> rfl
  rw [reads]
  split
  · rename_i blank
    simp [blank, Binary.not_read?_nil]
  · exact Option.isSome_iff_exists

theorem accepts_iff_spellsBelow {kind : Kind} {format : Format} (binary : kind.format? = some format)
    (precise : 0 < format.precision) (nearest : Binary.ReadsNearest format (Text.trim value)) :
    kind.accepts value = true ↔ Numeral.SpellsBelow (Binary.limit format) (Text.trim value) := by
  rw [accepts_iff_exists_read? binary, Binary.exists_read?_iff precise nearest]

end Kind

namespace Rule

variable {name expectation : String}

theorem nonBlank?_some (given : Text.trim expectation ≠ "") :
    Text.nonBlank? (some expectation) = some (Text.trim expectation) := by
  rw [Text.nonBlank?, if_neg given]

/-- What is not blank and not a value of double precision is no number. -/
theorem expectedNumber_of_not_accepts (given : Text.trim expectation ≠ "")
    (rejected : Kind.double.accepts expectation = false) :
    expectedNumber name (some expectation) = .error (.invalidNumber name (Text.trim expectation)) := by
  rw [expectedNumber_eq_error_iff]
  refine .inr ⟨_, nonBlank?_some given, ?_, rfl⟩
  rw [Value.numberOfText?, Text.trim_trim, Option.eq_none_iff_forall_ne_some]
  intro x read
  rw [(Kind.accepts_iff_exists_read? rfl).2 ⟨x, read⟩] at rejected
  cases rejected

/-- An expectation is taken as a number if and only if it is a value of double precision. -/
theorem exists_expectedNumber_iff (name expectation : String) :
    (∃ x, expectedNumber name (some expectation) = .ok x) ↔ Kind.double.accepts expectation = true := by
  rw [exists_ok_iff]
  constructor
  · intro fine
    by_contra rejected
    by_cases blank : Text.trim expectation = ""
    · refine fine _ (expectedNumber_eq_error_iff.2 (.inl ⟨?_, rfl⟩))
      rw [Text.nonBlank?, if_pos blank]
    · exact fine _ (expectedNumber_of_not_accepts blank (by simpa using rejected))
  · intro accepted fault failed
    obtain ⟨x, read⟩ := (Kind.accepts_iff_exists_read? rfl).1 accepted
    have given : Text.trim expectation ≠ "" := by
      intro blank
      simp [Kind.accepts, blank] at accepted
    rw [expectedNumber_eq_error_iff, nonBlank?_some given] at failed
    rcases failed with ⟨missing, -⟩ | ⟨text, written, unreadable, -⟩
    · cases missing
    · cases written
      rw [Value.numberOfText?, Text.trim_trim, read] at unreadable
      cases unreadable

section Bounding

variable {describe : Double → Constraint} {passes : Double → Option String → Bool} {value : Option String}

/-- What is made of a number is made of every value of double precision, and of nothing else. -/
theorem exists_bind_expectedNumber_iff {α β : Type} {give : Double → α} {wrap : α → β}
    (injective : Function.Injective wrap) :
    (∃ result, (expectedNumber name (some expectation) >>= fun bound => pure (wrap (give bound))) =
        .ok (wrap result)) ↔ Kind.double.accepts expectation = true := by
  rw [← exists_expectedNumber_iff name expectation]
  simp only [bind_eq_ok_iff, pure_eq_ok_iff, injective.eq_iff]
  constructor
  · intro found
    obtain ⟨-, bound, read, -⟩ := found
    exact ⟨bound, read⟩
  · intro found
    obtain ⟨bound, read⟩ := found
    exact ⟨_, bound, read, rfl⟩

theorem exists_bounding_check_iff :
    (∃ result, (bounding name describe passes).check value (some expectation) = .ok result) ↔
      Kind.double.accepts expectation = true :=
  exists_bind_expectedNumber_iff Function.injective_id

theorem exists_bounding_constraint?_iff :
    (∃ constraint, (bounding name describe passes).constraint? (some expectation) = .ok (some constraint)) ↔
      Kind.double.accepts expectation = true :=
  exists_bind_expectedNumber_iff (Option.some_injective _)

end Bounding

theorem exists_bounding_of_mem {rule : Rule} (member : rule ∈ [min, max, minLength, maxLength]) :
    ∃ name describe passes, rule = bounding name describe passes := by
  simp only [List.mem_cons, List.not_mem_nil, or_false] at member
  rcases member with rfl | rfl | rfl | rfl <;> exact ⟨_, _, _, rfl⟩

end Rule

namespace Kind

/-- The values of the kinds of binary numbers are the numerals, with any number of digits and any exponent, whose
size is below the limit of the format: half of a last place beyond its largest number. A rule with a bound accepts
just the expectations that are values of double precision, and says of each other one that it is no number, unless
it is blank. The reader has to round the text correctly, which it does unless the text is long and its exponent is
long as well. -/
theorem binary_kinds_accept_numerals_within_range :
    (∀ text : String, text.length ≤ 65000 ∨ Numeral.ShortExponent text.toList →
      Binary.ReadsNearest binary64 text ∧ Binary.ReadsNearest binary32 text) ∧
    (∀ value, Binary.ReadsNearest binary64 (Text.trim value) →
      (Kind.double.accepts value = true ↔ Numeral.SpellsBelow (2 ^ 1024 - 2 ^ 970) (Text.trim value))) ∧
    (∀ value, Binary.ReadsNearest binary32 (Text.trim value) →
      (Kind.float.accepts value = true ↔ Numeral.SpellsBelow (2 ^ 128 - 2 ^ 103) (Text.trim value))) ∧
    ∀ rule ∈ [Rule.min, Rule.max, Rule.minLength, Rule.maxLength], ∀ expectation value,
      ((∃ result, rule.check value (some expectation) = .ok result) ↔
        Kind.double.accepts expectation = true) ∧
      ((∃ constraint, rule.constraint? (some expectation) = .ok (some constraint)) ↔
        Kind.double.accepts expectation = true) ∧
      (Text.trim expectation ≠ "" → Kind.double.accepts expectation = false →
        rule.check value (some expectation) =
            .error (.invalidNumber rule.name (Text.trim expectation)) ∧
          rule.constraint? (some expectation) =
            .error (.invalidNumber rule.name (Text.trim expectation))) := by
  refine ⟨?_, ?_, ?_, ?_⟩
  · intro text tame
    rcases tame with short | short
    · exact ⟨Binary.readsNearest_of_length_le Binary.within_binary64 short,
        Binary.readsNearest_of_length_le Binary.within_binary32 short⟩
    · exact ⟨Binary.readsNearest_of_shortExponent short, Binary.readsNearest_of_shortExponent short⟩
  · intro value nearest
    rw [← Binary.limit_binary64]
    exact accepts_iff_spellsBelow rfl (by decide) nearest
  · intro value nearest
    rw [← Binary.limit_binary32]
    exact accepts_iff_spellsBelow rfl (by decide) nearest
  · intro rule member expectation value
    obtain ⟨name, describe, passes, rfl⟩ := Rule.exists_bounding_of_mem member
    refine ⟨Rule.exists_bounding_check_iff, Rule.exists_bounding_constraint?_iff, ?_⟩
    intro given rejected
    have failed : Rule.expectedNumber name (some expectation) = _ :=
      Rule.expectedNumber_of_not_accepts given rejected
    simp only [Rule.bounding, failed]
    exact ⟨rfl, rfl⟩

/-- The limit of single precision is spelled by a value of double precision only, and something less by a value
of both. A text that spells no numeral is no bound. -/
theorem single_precision_ends_below_its_limit :
    Numeral.SpellsBelow (2 ^ 128 - 2 ^ 103) (Text.trim " 340282356779733661637539395458142568447.9") ∧
      ¬ Numeral.SpellsBelow (2 ^ 128 - 2 ^ 103) (Text.trim "34028235677973366163753939545814256844.8E+01") ∧
      Numeral.SpellsBelow (2 ^ 1024 - 2 ^ 970)
        (Text.trim "34028235677973366163753939545814256844.8E+01") ∧
      Rule.min.check none (some " inf ") = .error (.invalidNumber "min" (Text.trim " inf ")) := by
  obtain ⟨tame, double, float, bounds⟩ := binary_kinds_accept_numerals_within_range
  have below := tame (Text.trim " 340282356779733661637539395458142568447.9") (.inl (by decide +kernel))
  have limit := tame (Text.trim "34028235677973366163753939545814256844.8E+01") (.inl (by decide +kernel))
  refine ⟨(float _ below.2).1 (by decide +kernel), ?_, (double _ limit.1).1 (by decide +kernel), ?_⟩
  · rw [← float _ limit.2]
    decide +kernel
  · exact ((bounds Rule.min (by simp) " inf " none).2.2 (by decide +kernel) (by decide +kernel)).1

end Kind

end FormRules
