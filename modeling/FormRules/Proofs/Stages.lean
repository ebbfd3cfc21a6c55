/-
This file says what the two stages of a run print and how each of them ends. Definitions that cannot be used
leave nothing behind their header; those that can be used are all listed, with their hints. Values that can be
loaded are all checked.
-/

import FormRules.Command
import FormRules.Proofs.Verification

namespace FormRules.Command

def definitionsHeader (path : String) : String :=
  "Checking attribute definitions: " ++ path ++ "\n\n"

def valuesHeader (path : String) : String :=
  "\nValidating values: " ++ path ++ "\n"

/-- The two lines for a field and its definition: the clauses, and the hints that follow from them. -/
inductive FieldLines [Pattern.Engine] : String × String → String → Prop
  | described {field definition : String} {set : ClauseSet} {constraints : List Constraint}
      (read : Definition.read .standard definition = .ok set)
      (interpreted : Rulebook.standard.constraints set.clauses = .ok constraints) :
      FieldLines (field, definition)
        ("  ✓ " ++ field ++ ": " ++ Clause.displayAll set.clauses ++ "\n"
          ++ ("      hints: " ++ describeHints (Hints.ofConstraints constraints) ++ "\n"))

/-- What is printed behind the header for definitions that can be used. -/
def fieldsPrinted (form : Form) (lines : List String) : String :=
  if form.entries.isEmpty then "  (no attributes defined)\n" else String.join lines

variable {contents : Contents} {form : Form} {failure : Failure}

/-- An empty form has no flaw. -/
theorem filled_of_hints_eq_error {book : Rulebook} {error : FormError}
    (failed : Form.hints book form = .error error) : ¬ form.entries.isEmpty = true := by
  obtain ⟨entry, first⟩ := NameMap.traverse_eq_error_iff.1 failed
  intro empty
  rw [List.isEmpty_iff.1 empty] at first
  exact not_first_nil first

section Definitions

variable [Pattern.Engine]

/-- The hints of a field are found under its name. -/
theorem exists_hint_of_hints {hints : NameMap Hints} (found : Form.hints .standard form = .ok hints) :
    ∀ entry ∈ form.entries, ∃ set constraints, Definition.read .standard entry.2 = .ok set ∧
      Rulebook.standard.constraints set.clauses = .ok constraints ∧
      hints.get? entry.1 = some (Hints.ofConstraints constraints) := by
  intro entry member
  have defined : form.get? entry.1 = some entry.2 := NameMap.get?_eq_some_iff.2 member
  obtain ⟨hint, made⟩ := NameMap.exists_traverse_eq_ok_iff.1 ⟨hints, found⟩ entry.1 entry.2 defined
  have stored : hints.get? entry.1 = some hint := (NameMap.get?_traverse found).2 ⟨entry.2, defined, made⟩
  simp only [Form.hintsFor, bind_eq_ok_iff, Form.readFor_eq_ok_iff, mapError_eq_ok_iff, pure_eq_ok_iff] at made
  obtain ⟨set, read, constraints, interpreted, rfl⟩ := made
  exact ⟨set, constraints, read, interpreted, stored⟩

/-- Each field is described by its two lines if its hints are known. -/
theorem exists_lines_of_described {hints : NameMap Hints} {entries : List (String × String)}
    (described : ∀ entry ∈ entries, ∃ set constraints, Definition.read .standard entry.2 = .ok set ∧
      Rulebook.standard.constraints set.clauses = .ok constraints ∧
      hints.get? entry.1 = some (Hints.ofConstraints constraints)) :
    ∃ lines, List.Forall₂ FieldLines entries lines ∧
      describeFields .standard hints entries = (String.join lines, .ok ()) := by
  induction entries with
  | nil => exact ⟨[], .nil, rfl⟩
  | cons entry rest inductionHypothesis =>
      obtain ⟨⟨set, constraints, read, interpreted, stored⟩, restDescribed⟩ :=
        List.forall_mem_cons.1 described
      obtain ⟨lines, fields, printed⟩ := inductionHypothesis restDescribed
      refine ⟨_, .cons (.described read interpreted) fields, ?_⟩
      simp only [describeFields, read, stored, printed, String.join_cons]
      rfl

variable [Json.Diagnostics]

theorem checkDefinitions_of_load_eq_error (path : String) (failed : load contents = .error failure) :
    checkDefinitions .standard path contents = (definitionsHeader path, .error failure) := by
  simp only [checkDefinitions, failed]
  rfl

/-- A flaw is found before the first field is printed. -/
theorem checkDefinitions_of_verify_eq_error (path : String) {error : FormError}
    (loaded : load contents = .ok form) (failed : Form.verify .standard form = .error error) :
    checkDefinitions .standard path contents = (definitionsHeader path, .error (.form error)) := by
  have flawed : Form.hints .standard form = .error error := Form.verify_eq_error_iff_hints.1 failed
  simp only [checkDefinitions, loaded, if_neg (filled_of_hints_eq_error flawed), flawed]
  rfl

/-- Definitions without a flaw are all listed. -/
theorem exists_fieldLines_of_verify (path : String) (loaded : load contents = .ok form)
    (verified : Form.verify .standard form = .ok ()) :
    ∃ lines, List.Forall₂ FieldLines form.entries lines ∧
      checkDefinitions .standard path contents =
        (definitionsHeader path ++ fieldsPrinted form lines, .ok form) := by
  obtain ⟨hints, found⟩ := Form.verify_eq_ok_iff_hints.1 verified
  obtain ⟨lines, fields, printed⟩ := exists_lines_of_described (exists_hint_of_hints found)
  refine ⟨lines, fields, ?_⟩
  simp only [checkDefinitions, loaded, found, printed, fieldsPrinted]
  split
  · rfl
  · rfl

end Definitions

section Values

variable [Pattern.Engine] [Json.Diagnostics]

theorem checkValues_of_load_eq_error (form : Form) (path : String) (failed : load contents = .error failure) :
    checkValues .standard form path contents = (valuesHeader path, .error failure) := by
  simp only [checkValues, failed]
  rfl

/-- Values that have been validated have one line each. -/
theorem checkValues_of_validate (path : String) {submitted : NameMap String} {report : Report}
    (loaded : load contents = .ok submitted)
    (validated : Form.validate .standard form submitted = .ok report) :
    checkValues .standard form path contents =
      (valuesHeader path ++ String.join (report.entries.map fun entry => describeVerdict entry.1 entry.2),
        .ok (Report.isValid report)) := by
  simp only [checkValues, loaded, validated]
  rfl

end Values

section Sessions

variable [Pattern.Engine] [Json.Diagnostics]

variable {read : FileReader} {path stdout lines : String} {passed : Bool}

theorem outcome_withDefinitions_of_error
    (checked : checkDefinitions .standard path (read path) = (stdout, .error failure))
    (next : String → Form → Session) :
    (withDefinitions path next).outcome read = failed stdout failure := by
  simp only [withDefinitions, Session.outcome, checked]

theorem outcome_withDefinitions_of_ok
    (checked : checkDefinitions .standard path (read path) = (stdout, .ok form))
    (next : String → Form → Session) :
    (withDefinitions path next).outcome read = (next stdout form).outcome read := by
  simp only [withDefinitions, Session.outcome, checked]

theorem outcome_withValues_of_error
    (checked : checkValues .standard form path (read path) = (lines, .error failure)) :
    (withValues path stdout form).outcome read = failed (stdout ++ lines) failure := by
  simp only [withValues, Session.outcome, checked]

theorem outcome_withValues_of_ok
    (checked : checkValues .standard form path (read path) = (lines, .ok passed)) :
    (withValues path stdout form).outcome read = ⟨if passed then 0 else 1, stdout ++ lines, ""⟩ := by
  simp only [withValues, Session.outcome, checked]

end Sessions

end FormRules.Command
