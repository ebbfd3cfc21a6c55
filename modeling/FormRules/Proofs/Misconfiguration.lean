/-
This file says which expectations the rules cannot interpret, and shows that a check and the constraints
find the same fault in them, whatever the value.
-/

import FormRules.Proofs.Description
import FormRules.Proofs.Reading
import FormRules.Proofs.Trimming
import FormRules.Rule.Extra
import FormRules.StandIn

namespace FormRules

/-- Why the rule of a clause cannot interpret its expectation. -/
inductive Clause.Misfit [Pattern.Engine] (clause : Clause) : Fault → Prop
  | missing (asks : clause.name ∈ ["type", "min", "max", "minLength", "maxLength", "regex"])
      (blank : Text.nonBlank? clause.expectation = none) :
      Misfit clause (.missingExpectation clause.name)
  | type (named : clause.name = "type") {text : String}
      (written : Text.nonBlank? clause.expectation = some text)
      (unsupported : Kind.ofName? text = none) : Misfit clause (.unsupportedType text)
  | number (named : clause.name ∈ ["min", "max", "minLength", "maxLength"]) {text : String}
      (written : Text.nonBlank? clause.expectation = some text)
      (unreadable : Value.numberOfText? text = none) : Misfit clause (.invalidNumber clause.name text)
  | pattern (named : clause.name = "regex") {text : String} {cause : PatternError}
      (written : Text.nonBlank? clause.expectation = some text)
      (rejected : Pattern.compile text = .error cause) : Misfit clause (.invalidPattern text cause)

namespace Rule

theorem expected_eq_error_iff {name : String} {expectation : Option String} {fault : Fault} :
    expected name expectation = .error fault ↔
      Text.nonBlank? expectation = none ∧ fault = .missingExpectation name := by
  unfold expected
  cases Text.nonBlank? expectation <;> simp [eq_comm]

theorem expected_eq_ok_iff {name : String} {expectation : Option String} {text : String} :
    expected name expectation = .ok text ↔ Text.nonBlank? expectation = some text := by
  unfold expected
  cases Text.nonBlank? expectation <;> simp

/-- What starts from an expectation fails without one, or on the one there is. -/
theorem expected_bind_eq_error_iff {β : Type} {name : String} {expectation : Option String}
    {interpret : String → Except Fault β} {fault : Fault} :
    expected name expectation >>= interpret = .error fault ↔
      (Text.nonBlank? expectation = none ∧ fault = .missingExpectation name) ∨
        ∃ text, Text.nonBlank? expectation = some text ∧ interpret text = .error fault := by
  simp only [bind_eq_error_iff, expected_eq_error_iff, expected_eq_ok_iff]

theorem expectedNumber_eq_error_iff {name : String} {expectation : Option String} {fault : Fault} :
    expectedNumber name expectation = .error fault ↔
      (Text.nonBlank? expectation = none ∧ fault = .missingExpectation name) ∨
        ∃ text, Text.nonBlank? expectation = some text ∧ Value.numberOfText? text = none ∧
          fault = .invalidNumber name text := by
  rw [expectedNumber, expected_bind_eq_error_iff]
  apply or_congr Iff.rfl
  apply exists_congr
  intro text
  apply and_congr Iff.rfl
  cases Value.numberOfText? text <;> simp [eq_comm]

theorem named_eq_error_iff {name : String} {fault : Fault} :
    Kind.named name = .error fault ↔
      Kind.ofName? name = none ∧ fault = .unsupportedType (Text.trim name) := by
  unfold Kind.named
  cases Kind.ofName? name <;> simp [eq_comm]

theorem spelled_eq_error_iff [Pattern.Engine] {text : String} {fault : Fault} :
    Pattern.spelled text = .error fault ↔
      ∃ cause, Pattern.compile text = .error cause ∧ fault = .invalidPattern text cause := by
  unfold Pattern.spelled
  cases Pattern.compile text <;> simp [eq_comm]

theorem trim_of_nonBlank? {expectation : Option String} {text : String}
    (written : Text.nonBlank? expectation = some text) : Text.trim text = text := by
  obtain ⟨-, whole, rfl, rfl⟩ := Text.nonBlank?_eq_some written
  exact Text.trim_trim whole

section Standard

variable [Pattern.Engine]

theorem required_constraint?_eq_error_iff {expectation : Option String} {fault : Fault} :
    required.constraint? expectation = .error fault ↔
      Clause.Misfit ⟨required.name, expectation⟩ fault := by
  constructor
  · intro failed
    cases failed
  · intro misfit
    cases misfit <;> simp [required] at *

theorem type_constraint?_eq_error_iff {expectation : Option String} {fault : Fault} :
    type.constraint? expectation = .error fault ↔
      Clause.Misfit ⟨type.name, expectation⟩ fault := by
  rw [type, expected_bind_eq_error_iff]
  simp only [bind_eq_error_iff, named_eq_error_iff, pure_ne_error, and_false, exists_false, or_false]
  constructor
  · intro failed
    rcases failed with ⟨blank, rfl⟩ | ⟨text, written, unsupported, rfl⟩
    · exact .missing (by simp) blank
    · rw [trim_of_nonBlank? written]
      exact .type rfl written unsupported
  · intro misfit
    cases misfit with
    | missing asks blank => exact .inl ⟨blank, rfl⟩
    | type named written unsupported =>
        exact .inr ⟨_, written, unsupported, by rw [trim_of_nonBlank? written]⟩
    | number named written unreadable => simp at named
    | pattern named written rejected => simp at named

theorem bounding_constraint?_eq_error_iff {name : String} {describe : Double → Constraint}
    {passes : Double → Option String → Bool}
    (bounds : name ∈ ["min", "max", "minLength", "maxLength"])
    {expectation : Option String} {fault : Fault} :
    (bounding name describe passes).constraint? expectation = .error fault ↔
      Clause.Misfit ⟨name, expectation⟩ fault := by
  simp only [bounding, bind_eq_error_iff, expectedNumber_eq_error_iff, pure_ne_error, and_false,
    exists_false, or_false]
  constructor
  · intro failed
    rcases failed with ⟨blank, rfl⟩ | ⟨text, written, unreadable, rfl⟩
    · exact .missing (List.mem_cons_of_mem _ (List.mem_append_left ["regex"] bounds)) blank
    · exact .number bounds written unreadable
  · intro misfit
    cases misfit with
    | missing asks blank => exact .inl ⟨blank, rfl⟩
    | type named written unsupported =>
        cases named
        simp at bounds
    | number named written unreadable => exact .inr ⟨_, written, unreadable, rfl⟩
    | pattern named written rejected =>
        cases named
        simp at bounds

theorem regex_constraint?_eq_error_iff {expectation : Option String} {fault : Fault} :
    regex.constraint? expectation = .error fault ↔
      Clause.Misfit ⟨regex.name, expectation⟩ fault := by
  rw [regex, expected_bind_eq_error_iff]
  simp only [bind_eq_error_iff, spelled_eq_error_iff, pure_ne_error, and_false, exists_false, or_false]
  constructor
  · intro failed
    rcases failed with ⟨blank, rfl⟩ | ⟨text, written, cause, rejected, rfl⟩
    · exact .missing (by simp) blank
    · exact .pattern rfl written rejected
  · intro misfit
    cases misfit with
    | missing asks blank => exact .inl ⟨blank, rfl⟩
    | type named written unsupported => simp at named
    | number named written unreadable => simp at named
    | pattern named written rejected => exact .inr ⟨_, written, _, rejected, rfl⟩

/-- The constraint of a standard rule fails exactly with what is wrong with the expectation. -/
theorem constraint?_eq_error_iff {rule : Rule} (member : rule ∈ standard)
    {expectation : Option String} {fault : Fault} :
    rule.constraint? expectation = .error fault ↔ Clause.Misfit ⟨rule.name, expectation⟩ fault := by
  simp only [standard, List.mem_cons, List.not_mem_nil, or_false] at member
  rcases member with rfl | rfl | rfl | rfl | rfl | rfl | rfl
  · exact required_constraint?_eq_error_iff
  · exact type_constraint?_eq_error_iff
  · exact bounding_constraint?_eq_error_iff (by simp)
  · exact bounding_constraint?_eq_error_iff (by simp)
  · exact bounding_constraint?_eq_error_iff (by simp)
  · exact bounding_constraint?_eq_error_iff (by simp)
  · exact regex_constraint?_eq_error_iff

/-- The rules that describe no constraint have no expectation but a missing one that they reject. -/
theorem not_misfit_of_mem_extra {rule : Rule} (member : rule ∈ extra) (expectation : Option String)
    (fault : Fault) : ¬ Clause.Misfit ⟨rule.name, expectation⟩ fault := by
  simp only [extra, List.mem_cons, List.not_mem_nil, or_false] at member
  intro misfit
  cases misfit <;> rcases member with rfl | rfl <;> simp [uppercase, oneOf] at *

end Standard

theorem constraint?_of_mem_extra {rule : Rule} (member : rule ∈ extra) (expectation : Option String) :
    rule.constraint? expectation = .ok none := by
  simp only [extra, List.mem_cons, List.not_mem_nil, or_false] at member
  rcases member with rfl | rfl <;> rfl

theorem check_ne_error_of_mem_extra {rule : Rule} (member : rule ∈ extra)
    {expectation : Option String}
    (present : rule.needsExpectation = true → Text.nonBlank? expectation ≠ none)
    (value : Option String) (fault : Fault) : rule.check value expectation ≠ .error fault := by
  simp only [extra, List.mem_cons, List.not_mem_nil, or_false] at member
  rcases member with rfl | rfl
  · simp [uppercase]
  · intro failed
    simp only [oneOf, bind_eq_error_iff, expected_eq_error_iff, pure_ne_error, and_false,
      exists_false, or_false] at failed
    exact present rfl failed.1

end Rule

namespace Rulebook

variable {book : Rulebook} {clause : Clause} {fault : Fault}

section Misfits

variable [Pattern.Engine]

/-- In a book of known rules, what is wrong with the expectation of a clause is what its constraint
fails with. -/
theorem constraint?_eq_error_iff_misfit (known : book.rules ⊆ Rule.standard ++ Rule.extra)
    (served : book.Serves clause) : book.constraint? clause = .error fault ↔ clause.Misfit fault := by
  obtain ⟨rule, found, -⟩ := served
  have named : rule.name = clause.name := find?_name found
  have same : clause = ⟨rule.name, clause.expectation⟩ := by rw [named]
  have applied : book.constraint? clause = rule.constraint? clause.expectation := by
    simp only [constraint?, found]
  rw [applied, same]
  rcases List.mem_append.1 (known (mem_of_find? found)) with standard | extra
  · exact Rule.constraint?_eq_error_iff standard
  · rw [Rule.constraint?_of_mem_extra extra]
    simp [Rule.not_misfit_of_mem_extra extra]

/-- A check of any value fails with the same fault. -/
theorem apply_eq_error_iff_misfit (known : book.rules ⊆ Rule.standard ++ Rule.extra)
    (served : book.Serves clause) (value : Option String) :
    book.apply value clause = .error fault ↔ clause.Misfit fault := by
  obtain ⟨rule, found, present⟩ := served
  have named : rule.name = clause.name := find?_name found
  have same : clause = ⟨rule.name, clause.expectation⟩ := by rw [named]
  have applied : book.apply value clause = rule.check value clause.expectation := by
    simp only [apply, found]
  rw [applied, same]
  rcases List.mem_append.1 (known (mem_of_find? found)) with standard | extra
  · rw [Rule.checksByConstraint_of_mem_standard standard, map_eq_error_iff]
    exact Rule.constraint?_eq_error_iff standard
  · simp [Rule.not_misfit_of_mem_extra extra, Rule.check_ne_error_of_mem_extra extra present]

/-- With standard rules only, a check of any value meets the same first fault as the constraints. -/
theorem firstError_apply_iff (standard : book.rules ⊆ Rule.standard) {clauses : List Clause}
    (value : Option String) :
    FirstError (book.apply value) clauses clause fault ↔
      FirstError book.constraint? clauses clause fault := by
  apply first_congr
  intro other _ error
  rw [apply_eq_map_constraint? standard, map_eq_error_iff]

/-- A fault has nothing to do with the value. A check carries it if and only if the constraints fail with
it, it belongs to the first clause whose constraint fails, and nothing else is reported. -/
theorem misconfiguration_independent_of_value (book : Rulebook) (standard : book.rules ⊆ Rule.standard)
    (clauses : List Clause) :
    (∀ value fault, (book.checkClauses value clauses).fault? = some fault ↔
      book.constraints clauses = .error fault) ∧
    (∀ fault, book.constraints clauses = .error fault →
      ∃ clause, FirstError book.constraint? clauses clause fault ∧
        ∀ value, (book.checkClauses value clauses).failed = [clause]) ∧
    (∀ value other,
      (book.checkClauses value clauses).fault? = (book.checkClauses other clauses).fault? ∧
      ((book.checkClauses value clauses).isMisconfigured = true →
        book.checkClauses value clauses = book.checkClauses other clauses)) := by
  have carried : ∀ value fault, (book.checkClauses value clauses).fault? = some fault ↔
      book.constraints clauses = .error fault := by
    intro value fault
    simp only [fault?_checkClauses, constraints_eq_error_iff, firstError_apply_iff standard value]
  have verdict : ∀ {fault}, book.constraints clauses = .error fault →
      ∃ clause, FirstError book.constraint? clauses clause fault ∧
        ∀ value, book.checkClauses value clauses = .misconfigured clause fault := by
    intro fault failed
    obtain ⟨clause, first⟩ := constraints_eq_error_iff.1 failed
    exact ⟨clause, first, fun value =>
      checkClauses_of_firstError ((firstError_apply_iff standard value).2 first)⟩
  refine ⟨carried, ?_, ?_⟩
  · intro fault failed
    obtain ⟨clause, first, same⟩ := verdict failed
    refine ⟨clause, first, fun value => ?_⟩
    rw [same value]
    rfl
  · intro value other
    refine ⟨?_, ?_⟩
    · ext fault
      rw [carried value, carried other]
    · intro misconfigured
      obtain ⟨fault, found⟩ := Option.isSome_iff_exists.1 misconfigured
      obtain ⟨clause, -, same⟩ := verdict ((carried value fault).1 found)
      rw [same value, same other]

end Misfits

open scoped StandIn

/-- A bound that is no number is found for any value, although an earlier clause fails. -/
theorem misconfiguration_of_bad_bound :
    Rulebook.standard.rules ⊆ Rule.standard ∧
    (standard.constraints [⟨"required", none⟩, ⟨"min", some " ten "⟩, ⟨"colour", none⟩] =
      .error (.invalidNumber "min" "ten")) ∧
    ∀ value, (standard.checkClauses value
      [⟨"required", none⟩, ⟨"min", some " ten "⟩, ⟨"colour", none⟩]).fault? =
        some (.invalidNumber "min" "ten") := by
  have known : standard.rules ⊆ Rule.standard := List.Subset.refl _
  refine ⟨known, by decide +kernel, ?_⟩
  intro value
  obtain ⟨carried, _⟩ := misconfiguration_independent_of_value standard known
    [⟨"required", none⟩, ⟨"min", some " ten "⟩, ⟨"colour", none⟩]
  exact (carried value _).2 (by decide +kernel)

end Rulebook

end FormRules
