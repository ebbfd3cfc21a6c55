/-
This file shows that what can be found wrong with a form when it is set up is what can go wrong with it when
values are submitted, for forms whose rules are standard or describe no constraint.
-/

import FormRules.Form
import FormRules.Proofs.ByteOrder
import FormRules.Proofs.Misconfiguration
import FormRules.Proofs.OrderedMap
import FormRules.StandIn
import Mathlib.Data.List.Sort

namespace FormRules

/-- The fault is that of the first clause whose expectation cannot be interpreted. -/
def Clause.FirstMisfit [Pattern.Engine] (clauses : List Clause) (fault : Fault) : Prop :=
  ∃ clause, First Misfit clauses clause fault

namespace Form

/-- What is wrong with the definition of a field if it cannot be read. -/
def Unreadable (book : Rulebook) (field definition : String) (error : FormError) : Prop :=
  ∃ cause, Definition.read book definition = .error cause ∧ error = .definition field cause

/-- What is wrong with the definition of a field if it can be read but not be interpreted. -/
def Uninterpretable [Pattern.Engine] (book : Rulebook) (field definition : String) (error : FormError) : Prop :=
  ∃ set fault, Definition.read book definition = .ok set ∧ Clause.FirstMisfit set.clauses fault ∧
    error = .configuration field fault

/-- Either the definition of a field cannot be read or it cannot be interpreted. -/
def Unusable [Pattern.Engine] (book : Rulebook) (field definition : String) (error : FormError) : Prop :=
  Unreadable book field definition error ∨ Uninterpretable book field definition error

/-- The error is what is wrong with a field, and there is nothing wrong with the fields before it in the
order of the bytes of their names. -/
def FirstFlaw (form : Form) (flaw : String → String → FormError → Prop) (error : FormError) : Prop :=
  ∃ field definition, form.get? field = some definition ∧ flaw field definition error ∧
    ∀ other found, form.get? other = some found → Text.bytes other < Text.bytes field →
      ∀ otherError, ¬ flaw other found otherError

end Form

theorem Clause.exists_firstMisfit_iff [Pattern.Engine] {clauses : List Clause} :
    (∃ fault, FirstMisfit clauses fault) ↔ ∃ clause ∈ clauses, ∃ fault, clause.Misfit fault := by
  simp only [FirstMisfit]
  rw [exists_comm, exists_first_iff]

namespace Rulebook

variable {book : Rulebook} {clauses : List Clause} {fault : Fault}

theorem constraints_eq_error_iff_firstMisfit [Pattern.Engine] (known : book.rules ⊆ Rule.standard ++ Rule.extra)
    (served : ∀ clause ∈ clauses, book.Serves clause) :
    book.constraints clauses = .error fault ↔ Clause.FirstMisfit clauses fault := by
  rw [constraints_eq_error_iff]
  apply exists_congr
  intro clause
  apply first_congr
  intro clause member fault
  exact constraint?_eq_error_iff_misfit known (served clause member)

/-- The verdict on any value carries the same fault as the constraints. -/
theorem fault?_checkClauses_iff_firstMisfit [Pattern.Engine] (known : book.rules ⊆ Rule.standard ++ Rule.extra)
    (served : ∀ clause ∈ clauses, book.Serves clause) (value : Option String) :
    (book.checkClauses value clauses).fault? = some fault ↔ Clause.FirstMisfit clauses fault := by
  rw [fault?_checkClauses]
  apply exists_congr
  intro clause
  apply first_congr
  intro clause member fault
  exact apply_eq_error_iff_misfit known (served clause member) value

end Rulebook

namespace Form

variable {book : Rulebook} {form : Form} {values : NameMap String} {field definition : String}
  {error : FormError}

theorem readFor_eq_error_iff :
    readFor book field definition = .error error ↔ Unreadable book field definition error :=
  mapError_eq_error_iff

theorem readFor_eq_ok_iff {set : ClauseSet} :
    readFor book field definition = .ok set ↔ Definition.read book definition = .ok set :=
  mapError_eq_ok_iff

/-- A field can be checked if its definition can be read, whatever value is submitted for it. -/
theorem checkField_eq_error_iff :
    checkField book values field definition = .error error ↔
      Unreadable book field definition error := by
  simp only [checkField, bind_eq_error_iff, readFor_eq_error_iff, pure_ne_error, and_false,
    exists_false, or_false]

theorem checkField_eq_ok_iff {verdict : Verdict} :
    checkField book values field definition = .ok verdict ↔
      ∃ set, Definition.read book definition = .ok set ∧
        book.checkClauses (values.get? field) set.clauses = verdict := by
  simp only [checkField, bind_eq_ok_iff, readFor_eq_ok_iff, pure_eq_ok_iff]

theorem hintsFor_eq_error_iff [Pattern.Engine] (known : book.rules ⊆ Rule.standard ++ Rule.extra) :
    hintsFor book field definition = .error error ↔ Unusable book field definition error := by
  rw [hintsFor, bind_eq_error_iff, readFor_eq_error_iff]
  simp only [readFor_eq_ok_iff, bind_eq_error_iff, mapError_eq_error_iff, pure_ne_error, and_false,
    exists_false, or_false]
  apply or_congr Iff.rfl
  apply exists_congr
  intro set
  constructor
  · intro fails
    obtain ⟨read, fault, failed, rfl⟩ := fails
    have served := Definition.serves_of_read read
    have first := (Rulebook.constraints_eq_error_iff_firstMisfit known served).1 failed
    exact ⟨fault, read, first, rfl⟩
  · intro flaw
    obtain ⟨fault, read, first, rfl⟩ := flaw
    have served := Definition.serves_of_read read
    have failed := (Rulebook.constraints_eq_error_iff_firstMisfit known served).2 first
    exact ⟨read, fault, failed, rfl⟩

/-- Going through the fields in order stops with what is wrong with the first flawed one. -/
theorem traverse_eq_error_iff_firstFlaw {β : Type} {f : String → String → Except FormError β}
    {flaw : String → String → FormError → Prop}
    (same : ∀ {field definition error}, f field definition = .error error ↔ flaw field definition error) :
    NameMap.traverse f form = .error error ↔ FirstFlaw form flaw error := by
  simp only [NameMap.traverse_eq_error_iff, Prod.exists, NameMap.first_entries_iff, same, FirstFlaw,
    Text.bytes_lt_iff]

theorem exists_traverse_eq_error_iff {β : Type} {f : String → String → Except FormError β}
    {flaw : String → String → FormError → Prop}
    (same : ∀ {field definition error}, f field definition = .error error ↔ flaw field definition error) :
    (∃ error, NameMap.traverse f form = .error error) ↔
      ∃ field definition, form.get? field = some definition ∧ ∃ error, flaw field definition error := by
  simp only [NameMap.traverse_eq_error_iff]
  rw [exists_comm, exists_first_iff]
  simp only [Prod.exists, same, NameMap.get?_eq_some_iff]

theorem validate_eq_error_iff :
    validate book form values = .error error ↔ FirstFlaw form (Unreadable book) error :=
  traverse_eq_error_iff_firstFlaw checkField_eq_error_iff

theorem exists_validate_eq_error_iff : (∃ error, validate book form values = .error error) ↔
    ∃ field definition, form.get? field = some definition ∧
      ∃ error, Unreadable book field definition error :=
  exists_traverse_eq_error_iff checkField_eq_error_iff

theorem verify_eq_error_iff_hints :
    verify book form = .error error ↔ hints book form = .error error := by
  simp only [verify, bind_eq_error_iff, pure_ne_error, and_false, exists_false, or_false]

theorem verify_eq_ok_iff_hints : verify book form = .ok () ↔ ∃ found, hints book form = .ok found := by
  simp only [verify, bind_eq_ok_iff, pure_eq_ok_iff, and_true]

theorem verify_eq_error_iff [Pattern.Engine] (known : book.rules ⊆ Rule.standard ++ Rule.extra) :
    verify book form = .error error ↔ FirstFlaw form (Unusable book) error := by
  rw [verify_eq_error_iff_hints]
  exact traverse_eq_error_iff_firstFlaw (hintsFor_eq_error_iff known)

theorem exists_verify_eq_error_iff [Pattern.Engine] (known : book.rules ⊆ Rule.standard ++ Rule.extra) :
    (∃ error, verify book form = .error error) ↔
      ∃ field definition, form.get? field = some definition ∧
        ∃ error, Unusable book field definition error := by
  simp only [verify_eq_error_iff_hints]
  exact exists_traverse_eq_error_iff (hintsFor_eq_error_iff known)

theorem exists_unreadable_iff : (∃ error, Unreadable book field definition error) ↔
    ∃ cause, Definition.read book definition = .error cause := by
  simp [Unreadable]

/-- A definition is unusable if it cannot be read or has a clause that cannot be interpreted. -/
theorem exists_unusable_iff [Pattern.Engine] : (∃ error, Unusable book field definition error) ↔
    (∃ cause, Definition.read book definition = .error cause) ∨
      ∃ set, Definition.read book definition = .ok set ∧
        ∃ clause ∈ set.clauses, ∃ fault, clause.Misfit fault := by
  simp only [Unusable, exists_or]
  apply or_congr
  · exact exists_unreadable_iff
  · simp only [Uninterpretable, ← Clause.exists_firstMisfit_iff]
    constructor
    · intro flawed
      obtain ⟨_, set, fault, read, first, _⟩ := flawed
      exact ⟨set, read, fault, first⟩
    · intro misfits
      obtain ⟨set, read, fault, first⟩ := misfits
      exact ⟨_, set, fault, read, first, rfl⟩

theorem misconfigured_increasing (report : Report) :
    report.misconfigured.Pairwise fun first second => first < second :=
  NameMap.increasing_map_filter_entries report _

section Agreement

variable [Pattern.Engine]

/-- A report lists a field as misconfigured if and only if its definition cannot be interpreted. -/
theorem mem_misconfigured_iff (known : book.rules ⊆ Rule.standard ++ Rule.extra) {report : Report}
    (validated : validate book form values = .ok report) :
    field ∈ report.misconfigured ↔
      ∃ definition error, form.get? field = some definition ∧
        Uninterpretable book field definition error := by
  rw [Report.misconfigured, NameMap.mem_map_filter_entries_iff]
  simp only [NameMap.get?_traverse validated, checkField_eq_ok_iff]
  constructor
  · intro reported
    obtain ⟨_, ⟨definition, defined, set, read, rfl⟩, misconfigured⟩ := reported
    obtain ⟨fault, carried⟩ := Option.isSome_iff_exists.1 misconfigured
    have served := Definition.serves_of_read read
    have first := (Rulebook.fault?_checkClauses_iff_firstMisfit known served _).1 carried
    exact ⟨definition, _, defined, set, fault, read, first, rfl⟩
  · intro flawed
    obtain ⟨definition, _, defined, set, fault, read, first, rfl⟩ := flawed
    have served := Definition.serves_of_read read
    have carried :=
      (Rulebook.fault?_checkClauses_iff_firstMisfit known served (values.get? field)).2 first
    exact ⟨_, ⟨definition, defined, set, read, rfl⟩, Option.isSome_iff_exists.2 ⟨fault, carried⟩⟩

/-- A form that passes has no misconfigured field, whatever is submitted. -/
theorem validate_of_verify (known : book.rules ⊆ Rule.standard ++ Rule.extra)
    (verified : verify book form = .ok ()) (values : NameMap String) :
    ∃ report, validate book form values = .ok report ∧ report.misconfigured = [] := by
  have usable : ∀ {field definition error}, form.get? field = some definition →
      ¬ Unusable book field definition error := by
    intro field definition error defined flaw
    obtain ⟨first, failed⟩ :=
      (exists_verify_eq_error_iff known).2 ⟨field, definition, defined, error, flaw⟩
    rw [verified] at failed
    cases failed
  cases outcome : validate book form values with
  | error error =>
      obtain ⟨field, definition, defined, flaw, _⟩ := validate_eq_error_iff.1 outcome
      exact absurd (.inl flaw) (usable defined)
  | ok report =>
      refine ⟨report, rfl, List.eq_nil_iff_forall_not_mem.2 fun field member => ?_⟩
      obtain ⟨definition, error, defined, flaw⟩ := (mem_misconfigured_iff known outcome).1 member
      exact usable defined (.inr flaw)

/-- One report without a misconfigured field is enough for the form to pass. -/
theorem verify_of_validate (known : book.rules ⊆ Rule.standard ++ Rule.extra) {report : Report}
    (validated : validate book form values = .ok report) (clean : report.misconfigured = []) :
    verify book form = .ok () := by
  cases outcome : verify book form with
  | ok result => rfl
  | error error =>
      exfalso
      obtain ⟨field, definition, defined, flaw, _⟩ := (verify_eq_error_iff known).1 outcome
      rcases flaw with unreadable | uninterpretable
      · obtain ⟨first, failed⟩ :=
          exists_validate_eq_error_iff.2 ⟨field, definition, defined, error, unreadable⟩
        rw [validated] at failed
        cases failed
      · have member :=
          (mem_misconfigured_iff known validated).2 ⟨definition, error, defined, uninterpretable⟩
        rw [clean] at member
        cases member

theorem misconfigured_eq_of_validate (known : book.rules ⊆ Rule.standard ++ Rule.extra)
    {others : NameMap String} {report otherReport : Report}
    (validated : validate book form values = .ok report)
    (otherValidated : validate book form others = .ok otherReport) :
    otherReport.misconfigured = report.misconfigured := by
  apply (misconfigured_increasing otherReport).eq_of_mem_iff (misconfigured_increasing report)
  intro field
  rw [mem_misconfigured_iff known validated, mem_misconfigured_iff known otherValidated]

/-- What is found when a form is set up is what goes wrong when values are submitted. Values can be checked
if and only if all definitions can be read. If the form passes, no field is misconfigured for any values; if
none is misconfigured for some values, the form passes. Which fields are misconfigured does not depend on
the values. -/
theorem verification_agrees_with_validation (book : Rulebook)
    (known : book.rules ⊆ Rule.standard ++ Rule.extra) (form : Form) :
    (∀ values error,
      validate book form values = .error error ↔ FirstFlaw form (Unreadable book) error) ∧
    (∀ values, (∃ error, validate book form values = .error error) ↔
      ∃ field definition cause,
        form.get? field = some definition ∧ Definition.read book definition = .error cause) ∧
    (∀ error, verify book form = .error error ↔ FirstFlaw form (Unusable book) error) ∧
    ((∃ error, verify book form = .error error) ↔
      ∃ field definition, form.get? field = some definition ∧
        ((∃ cause, Definition.read book definition = .error cause) ∨
          ∃ set, Definition.read book definition = .ok set ∧
            ∃ clause ∈ set.clauses, ∃ fault, clause.Misfit fault)) ∧
    (verify book form = .ok () →
      ∀ values, ∃ report, validate book form values = .ok report ∧ report.misconfigured = []) ∧
    (∀ values report, validate book form values = .ok report → report.misconfigured = [] →
      verify book form = .ok ()) ∧
    (∀ values report, validate book form values = .ok report →
      (report.misconfigured.Pairwise fun first second => Text.bytes first < Text.bytes second) ∧
      (∀ field, field ∈ report.misconfigured ↔
        ∃ definition error, form.get? field = some definition ∧
          Uninterpretable book field definition error) ∧
      ∀ others otherReport, validate book form others = .ok otherReport →
        otherReport.misconfigured = report.misconfigured) := by
  refine ⟨?_, ?_, ?_, ?_, ?_, ?_, ?_⟩
  · intro values error
    exact validate_eq_error_iff
  · intro values
    simp only [exists_validate_eq_error_iff, exists_unreadable_iff, exists_and_left]
  · intro error
    exact verify_eq_error_iff known
  · simp only [exists_verify_eq_error_iff known, exists_unusable_iff]
  · exact validate_of_verify known
  · intro values report validated clean
    exact verify_of_validate known validated clean
  · intro values report validated
    refine ⟨?_, ?_, ?_⟩
    · exact (misconfigured_increasing report).imp Text.bytes_lt_iff.2
    · intro field
      exact mem_misconfigured_iff known validated
    · intro others otherReport otherValidated
      exact misconfigured_eq_of_validate known validated otherValidated

end Agreement

open scoped StandIn

/-- A sound form has no misconfigured field for any values. In the other form both functions fail, but each
on a field of its own. -/
theorem verification_agrees_for_parcel :
    Rulebook.standard.rules ⊆ Rule.standard ++ Rule.extra ∧
    (verify .standard (.ofList [("weight", "type:number; min:0.5"), ("country", "required")]) = .ok () ∧
      ∀ values, ∃ report,
        validate .standard (.ofList [("weight", "type:number; min:0.5"), ("country", "required")]) values =
          .ok report ∧ report.misconfigured = []) ∧
    (verify .standard (.ofList [("weight", "heavy"), ("height", "min:tall")]) =
        .error (.configuration "height" (.invalidNumber "min" "tall")) ∧
      ∀ values, validate .standard (.ofList [("weight", "heavy"), ("height", "min:tall")]) values =
        .error (.definition "weight" (.unknownRule "heavy"))) := by
  have known : Rulebook.standard.rules ⊆ Rule.standard ++ Rule.extra := List.subset_append_left _ _
  have agrees := verification_agrees_with_validation .standard known
  refine ⟨known, ⟨by decide +kernel, ?_⟩, by decide +kernel, ?_⟩
  · obtain ⟨_, _, _, _, passes, _⟩ :=
      agrees (.ofList [("weight", "type:number; min:0.5"), ("country", "required")])
    exact passes (by decide +kernel)
  · intro values
    obtain ⟨fails, _⟩ := agrees (.ofList [("weight", "heavy"), ("height", "min:tall")])
    exact (fails values _).2 ((fails .empty _).1 rfl)

end Form

end FormRules
