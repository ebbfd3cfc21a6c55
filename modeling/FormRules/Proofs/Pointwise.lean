/-
This file shows that the fields of a form are checked each on its own. An entry of a report depends on the
definition of its field and on the value submitted for it, and on nothing else in the form or in the values.
-/

import FormRules.Proofs.Verification
import FormRules.StandIn

namespace FormRules.Form

variable {book : Rulebook} {form : Form} {values others : NameMap String} {field definition : String}

/-- A field is checked as its value alone is checked against its definition. -/
theorem checkField_eq_ok_iff_check {verdict : Verdict} :
    checkField book values field definition = .ok verdict ↔
      book.check (values.get? field) (some definition) = .ok verdict := by
  rw [checkField_eq_ok_iff, Rulebook.check, bind_eq_ok_iff]
  simp only [pure_eq_ok_iff]

/-- Whether a field can be checked at all has nothing to do with its value. -/
theorem exists_checkField_eq_ok_iff :
    (∃ verdict, checkField book values field definition = .ok verdict) ↔
      ∃ set, Definition.read book definition = .ok set := by
  simp only [checkField_eq_ok_iff]
  constructor
  · intro checked
    obtain ⟨_, set, read, _⟩ := checked
    exact ⟨set, read⟩
  · intro readable
    obtain ⟨set, read⟩ := readable
    exact ⟨_, set, read, rfl⟩

theorem checkField_congr (same : others.get? field = values.get? field) :
    checkField book others field definition = checkField book values field definition := by
  rw [checkField, checkField, same]

variable {report : Report}

theorem exists_read_of_validate (validated : validate book form values = .ok report)
    (defined : form.get? field = some definition) : ∃ set, Definition.read book definition = .ok set := by
  have checked := NameMap.exists_traverse_eq_ok_iff.1 ⟨report, validated⟩ field definition defined
  exact exists_checkField_eq_ok_iff.1 checked

theorem exists_check_of_validate (validated : validate book form values = .ok report)
    (defined : form.get? field = some definition) :
    ∃ verdict, report.get? field = some verdict ∧
      book.check (values.get? field) (some definition) = .ok verdict := by
  obtain ⟨verdict, checked⟩ :=
    NameMap.exists_traverse_eq_ok_iff.1 ⟨report, validated⟩ field definition defined
  refine ⟨verdict, ?_, checkField_eq_ok_iff_check.1 checked⟩
  exact (NameMap.get?_traverse validated).2 ⟨definition, defined, checked⟩

/-- Every field accepts the value that is submitted for it, or that none is. -/
def Accepts (book : Rulebook) (form : Form) (values : NameMap String) : Prop :=
  ∀ field definition, form.get? field = some definition →
    ∃ verdict, book.check (values.get? field) (some definition) = .ok verdict ∧ verdict.isValid = true

/-- A report is valid exactly if each field accepts its value. -/
theorem isValid_iff_accepts (validated : validate book form values = .ok report) :
    report.isValid = true ↔ Accepts book form values := by
  have entries : report.isValid = true ↔
      ∀ field verdict, report.get? field = some verdict → verdict.isValid = true := by
    simp only [Report.isValid, List.all_eq_true, Prod.forall, NameMap.get?_eq_some_iff]
  rw [entries]
  constructor
  · intro passed field definition defined
    obtain ⟨verdict, reported, checked⟩ := exists_check_of_validate validated defined
    exact ⟨verdict, checked, passed field verdict reported⟩
  · intro accepts field verdict reported
    obtain ⟨definition, defined, checked⟩ := (NameMap.get?_traverse validated).1 reported
    obtain ⟨other, otherChecked, passes⟩ := accepts field definition defined
    rw [checkField_eq_ok_iff_check.1 checked] at otherChecked
    cases otherChecked
    exact passes

/-- Values under names that the form does not define are not looked at. -/
theorem validate_of_agree (validated : validate book form values = .ok report)
    (agree : ∀ field definition, form.get? field = some definition →
      others.get? field = values.get? field) :
    validate book form others = .ok report := by
  apply NameMap.traverse_eq_ok_of_agree validated
  intro field definition defined
  exact checkField_congr (agree field definition defined)

/-- Another value for one field changes the entry of that field at most. -/
theorem exists_validate_of_agree_elsewhere (validated : validate book form values = .ok report)
    (agree : ∀ elsewhere, elsewhere ≠ field → others.get? elsewhere = values.get? elsewhere) :
    ∃ changed, validate book form others = .ok changed ∧
      ∀ elsewhere, elsewhere ≠ field → changed.get? elsewhere = report.get? elsewhere := by
  apply NameMap.exists_traverse_of_agree_elsewhere validated
  · intro elsewhere _
    rfl
  · intro elsewhere different
    funext definition
    exact checkField_congr (agree elsewhere different)
  · intro definition defined
    exact exists_checkField_eq_ok_iff.2 (exists_read_of_validate validated defined)

/-- A definition that can be read, put in for one field, changes the entry of that field at most. -/
theorem exists_validate_insert (validated : validate book form values = .ok report) {set : ClauseSet}
    (read : Definition.read book definition = .ok set) :
    ∃ changed, validate book (form.insert field definition) values = .ok changed ∧
      ∀ elsewhere, elsewhere ≠ field → changed.get? elsewhere = report.get? elsewhere := by
  apply NameMap.exists_traverse_of_agree_elsewhere validated
  · intro elsewhere different
    exact NameMap.get?_insert_of_ne different
  · intro elsewhere _
    rfl
  · intro inserted defined
    rw [NameMap.get?_insert_self] at defined
    cases defined
    exact exists_checkField_eq_ok_iff.2 ⟨set, read⟩

/-- A report has an entry for each field of the form, the verdict on the value of that field alone. Values
under other names do not count. Another value for a field, or no value, changes no other entry, nor does a
definition that is added or replaced and can be read. -/
theorem fields_are_checked_alone (book : Rulebook) (form : Form) (values : NameMap String)
    (report : Report) (validated : validate book form values = .ok report) :
    report.names = form.names ∧
    (∀ field definition, form.get? field = some definition →
      ∃ verdict, report.get? field = some verdict ∧
        book.check (values.get? field) (some definition) = .ok verdict) ∧
    (∀ others : NameMap String,
      (∀ field definition, form.get? field = some definition →
        others.get? field = values.get? field) →
      validate book form others = .ok report) ∧
    (∀ (field : String) (others : NameMap String),
      (∀ elsewhere, elsewhere ≠ field → others.get? elsewhere = values.get? elsewhere) →
      ∃ changed, validate book form others = .ok changed ∧
        ∀ elsewhere, elsewhere ≠ field → changed.get? elsewhere = report.get? elsewhere) ∧
    (∀ field definition set, Definition.read book definition = .ok set →
      ∃ changed, validate book (form.insert field definition) values = .ok changed ∧
        ∀ elsewhere, elsewhere ≠ field → changed.get? elsewhere = report.get? elsewhere) := by
  refine ⟨NameMap.names_traverse validated, ?_, ?_, ?_, ?_⟩
  · intro field definition defined
    exact exists_check_of_validate validated defined
  · intro others agree
    exact validate_of_agree validated agree
  · intro field others agree
    exact exists_validate_of_agree_elsewhere validated agree
  · intro field definition set read
    exact exists_validate_insert validated read

open scoped StandIn

/-- A value and a definition for `ag` leave the entry of `age` alone, as does a change of the definition of
the field without a name. -/
theorem fields_with_common_beginning :
    validate .standard (.ofList [("age", "min:18"), ("", "required")]) (.ofList [("age", "17")]) =
      .ok (.ofList [("", .checked [⟨"required", none⟩]), ("age", .checked [⟨"min", some "18"⟩])]) ∧
    validate .standard (.ofList [("age", "min:18"), ("", "required")])
        (.ofList [("age", "17"), ("ag", "90")]) =
      .ok (.ofList [("", .checked [⟨"required", none⟩]), ("age", .checked [⟨"min", some "18"⟩])]) ∧
    (∃ changed,
      validate .standard ((NameMap.ofList [("age", "min:18"), ("", "required")]).insert "ag" "regex:[")
          (.ofList [("age", "17")]) = .ok changed ∧
        changed.get? "age" = some (.checked [⟨"min", some "18"⟩])) ∧
    (∃ changed,
      validate .standard ((NameMap.ofList [("age", "min:18"), ("", "required")]).insert "" "max:3")
          (.ofList [("age", "17")]) = .ok changed ∧
        changed.get? "age" = some (.checked [⟨"min", some "18"⟩])) := by
  have validated : validate .standard (.ofList [("age", "min:18"), ("", "required")])
      (.ofList [("age", "17")]) =
        .ok (.ofList [("", .checked [⟨"required", none⟩]), ("age", .checked [⟨"min", some "18"⟩])]) := by
    decide +kernel
  obtain ⟨-, -, ignored, -, inserted⟩ := fields_are_checked_alone .standard _ _ _ validated
  have regex : Definition.read .standard "regex:[" = .ok ⟨[⟨"regex", some "["⟩], by decide⟩ := by
    decide +kernel
  have max : Definition.read .standard "max:3" = .ok ⟨[⟨"max", some "3"⟩], by decide⟩ := by
    decide +kernel
  refine ⟨validated, ignored _ ?_, ?_, ?_⟩
  · intro field definition defined
    have undefined : (NameMap.ofList [("age", "min:18"), ("", "required")]).get? "ag" = none := by
      decide +kernel
    have different : field ≠ "ag" := by
      rintro rfl
      rw [undefined] at defined
      cases defined
    exact NameMap.get?_insert_of_ne different
  · obtain ⟨changed, again, same⟩ := inserted "ag" "regex:[" _ regex
    exact ⟨changed, again, same "age" (by decide)⟩
  · obtain ⟨changed, again, same⟩ := inserted "" "max:3" _ max
    exact ⟨changed, again, same "age" (by decide)⟩

end FormRules.Form
