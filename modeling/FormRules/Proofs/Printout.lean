/-
This file says what a run of the command prints. Definitions that cannot be used leave nothing behind the
header. Those that can be used are all listed with their hints, and after them each value has one line, because
nothing that could still go wrong has passed the check of the definitions.
-/

import FormRules.Proofs.Outcome
import FormRules.StandIn

namespace FormRules.Command

/-- The line for a field and its definition when values are checked. -/
inductive ValueLine [Pattern.Engine] (submitted : NameMap String) : String × String → String → Prop
  | passed {field definition : String} {set : ClauseSet}
      (read : Definition.read .standard definition = .ok set)
      (passes : Rulebook.standard.checkClauses (submitted.get? field) set.clauses = .checked []) :
      ValueLine submitted (field, definition) ("  ✓ " ++ field ++ "\n")
  | failed {field definition : String} {set : ClauseSet} {failures : List Clause}
      (read : Definition.read .standard definition = .ok set)
      (fails : Rulebook.standard.checkClauses (submitted.get? field) set.clauses = .checked failures)
      (some : failures ≠ []) :
      ValueLine submitted (field, definition)
        ("  ❌ " ++ field ++ ": " ++ Clause.displayAll failures ++ "\n")

variable {form : Form} {submitted : NameMap String}

/-- Whatever is wrong with definitions is found before the first field is printed. -/
theorem checkDefinitions_cases [Pattern.Engine] [Json.Diagnostics] (path : String) (contents : Contents) :
    (∃ failure, checkDefinitions .standard path contents = (definitionsHeader path, .error failure)) ∨
      ∃ form lines, Form.verify .standard form = .ok () ∧ List.Forall₂ FieldLines form.entries lines ∧
        checkDefinitions .standard path contents =
          (definitionsHeader path ++ fieldsPrinted form lines, .ok form) := by
  cases loaded : load contents with
  | error failure => exact .inl ⟨failure, checkDefinitions_of_load_eq_error path loaded⟩
  | ok form =>
      cases verified : Form.verify .standard form with
      | error error => exact .inl ⟨.form error, checkDefinitions_of_verify_eq_error path loaded verified⟩
      | ok result =>
          obtain ⟨lines, fields, checked⟩ := exists_fieldLines_of_verify path loaded verified
          exact .inr ⟨form, lines, verified, fields, checked⟩

/-- A verdict that is not a fault is described by the line for the value. -/
theorem valueLine_of_checked [Pattern.Engine] {field definition : String} {set : ClauseSet} {verdict : Verdict}
    (read : Definition.read .standard definition = .ok set)
    (checked : Rulebook.standard.checkClauses (submitted.get? field) set.clauses = verdict)
    (faultless : verdict.isMisconfigured = false) :
    ValueLine submitted (field, definition) (describeVerdict field verdict) := by
  cases verdict with
  | misconfigured clause fault => cases faultless
  | checked failures =>
      cases failures with
      | nil => exact .passed read checked
      | cons failure rest => exact .failed read checked (List.cons_ne_nil failure rest)

theorem faultless_of_misconfigured_eq_nil {report : Report} (clean : report.misconfigured = []) :
    ∀ entry ∈ report.entries, entry.2.isMisconfigured = false := by
  intro entry member
  have kept := List.filter_eq_nil_iff.1 (List.map_eq_nil_iff.1 clean) entry member
  exact Bool.eq_false_iff.2 kept

/-- After definitions that can be used, each field has one line for its value, in order. -/
theorem exists_valueLines_of_verify [Pattern.Engine] (verified : Form.verify .standard form = .ok ())
    (submitted : NameMap String) :
    ∃ report lines, Form.validate .standard form submitted = .ok report ∧ report.misconfigured = [] ∧
      List.Forall₂ (ValueLine submitted) form.entries lines ∧
      report.entries.map (fun entry => describeVerdict entry.1 entry.2) = lines := by
  have known : Rulebook.standard.rules ⊆ Rule.standard ++ Rule.extra := List.subset_append_left _ _
  obtain ⟨report, validated, clean⟩ := Form.validate_of_verify known verified submitted
  -- Nothing in the report is a fault, and each of its entries comes from the field in its place.
  have faultless := faultless_of_misconfigured_eq_nil clean
  have made := NameMap.forall₂_traverseEntries (NameMap.traverseEntries_of_traverse validated)
  refine ⟨report, _, validated, clean, ?_, rfl⟩
  apply List.forall₂_map_right_iff.2
  have both := (List.forall₂_and_left _ _).2 ⟨faultless, made.flip⟩
  apply both.flip.imp
  intro entry result checked
  obtain ⟨clear, same, finished⟩ := checked
  obtain ⟨set, read, verdict⟩ := Form.checkField_eq_ok_iff.1 finished
  rw [same]
  exact valueLine_of_checked read verdict clear

/-- Definitions that cannot be used leave nothing on the output but the header. If they can be used, all fields
are listed in the order of their names, each with its clauses and its hints. The values that are then loaded are
checked without an error or a fault: each field has one line, which says that its value passes or which
clauses fail. -/
theorem checked_definitions_leave_no_late_failure [Pattern.Engine] [Json.Diagnostics] (read : FileReader)
    (program definitions values : String) :
    (∀ failure, (checkDefinitions .standard definitions (read definitions)).2 = .error failure →
      (run read [program, definitions]).stdout = definitionsHeader definitions ∧
      (run read [program, definitions, values]).stdout = definitionsHeader definitions) ∧
    (∀ form, (checkDefinitions .standard definitions (read definitions)).2 = .ok form →
      (form.entries.Pairwise fun before after => Text.bytes before.1 < Text.bytes after.1) ∧
      (∃ lines, List.Forall₂ FieldLines form.entries lines ∧
        (run read [program, definitions]).stdout = definitionsHeader definitions ++ fieldsPrinted form lines) ∧
      ∀ submitted, load (read values) = .ok submitted →
        ∃ report lines, Form.validate .standard form submitted = .ok report ∧
          report.misconfigured = [] ∧ List.Forall₂ (ValueLine submitted) form.entries lines ∧
          (run read [program, definitions, values]).stdout =
            (run read [program, definitions]).stdout ++ (valuesHeader values ++ String.join lines) ∧
          (run read [program, definitions, values]).stderr = "") := by
  rcases checkDefinitions_cases definitions (read definitions) with
    ⟨failure, checked⟩ | ⟨form, lines, verified, fields, checked⟩
  · constructor
    · intro other failed
      exact ⟨congrArg Outcome.stdout (outcome_withDefinitions_of_error checked _),
        congrArg Outcome.stdout (outcome_withDefinitions_of_error checked _)⟩
    · intro form passed
      rw [checked] at passed
      cases passed
  · have printed : (run read [program, definitions]).stdout =
        definitionsHeader definitions ++ fieldsPrinted form lines :=
      congrArg Outcome.stdout (outcome_withDefinitions_of_ok checked _)
    have goesOn : run read [program, definitions, values] =
        (withValues values (definitionsHeader definitions ++ fieldsPrinted form lines) form).outcome read :=
      outcome_withDefinitions_of_ok checked _
    constructor
    · intro failure failed
      rw [checked] at failed
      cases failed
    · intro found passed
      rw [checked] at passed
      cases passed
      refine ⟨form.increasing.imp Text.bytes_lt_iff.2, ⟨lines, fields, printed⟩, ?_⟩
      intro submitted loaded
      obtain ⟨report, valueLines, validated, clean, each, rfl⟩ := exists_valueLines_of_verify verified submitted
      have ends := goesOn.trans (outcome_withValues_of_ok (checkValues_of_validate values loaded validated))
      refine ⟨report, _, validated, clean, each, ?_, ?_⟩
      · rw [ends, printed]
      · rw [ends]

open scoped StandIn

/-- A flawed definition leaves the header alone; a minor has one line of values behind the lines of the fields. -/
theorem printouts_of_age_files :
    ((checkDefinitions .standard "flawed.json" (ageFiles.reader "flawed.json")).2 =
        .error (.form (.definition "age" (.missingExpectation "min"))) ∧
      (run ageFiles.reader ["rule-check", "flawed.json", "adult.json"]).stdout = definitionsHeader "flawed.json") ∧
    ((checkDefinitions .standard "age.json" (ageFiles.reader "age.json")).2 =
        .ok (.ofList [("age", "required; min:18")]) ∧
      load (ageFiles.reader "minor.json") = .ok (.ofList [("age", "17")]) ∧
      ∃ lines, List.Forall₂ (ValueLine (.ofList [("age", "17")])) [("age", "required; min:18")] lines ∧
        (run ageFiles.reader ["rule-check", "age.json", "minor.json"]).stdout =
          (run ageFiles.reader ["rule-check", "age.json"]).stdout ++
            (valuesHeader "minor.json" ++ String.join lines)) := by
  have refused : (checkDefinitions .standard "flawed.json" (ageFiles.reader "flawed.json")).2 =
      .error (.form (.definition "age" (.missingExpectation "min"))) := by
    decide +kernel
  have accepted : (checkDefinitions .standard "age.json" (ageFiles.reader "age.json")).2 =
      .ok (.ofList [("age", "required; min:18")]) := by
    decide +kernel
  have loaded : load (ageFiles.reader "minor.json") = .ok (.ofList [("age", "17")]) := by
    decide +kernel
  obtain ⟨unusable, -⟩ := checked_definitions_leave_no_late_failure ageFiles.reader "rule-check" "flawed.json"
    "adult.json"
  obtain ⟨-, usable⟩ := checked_definitions_leave_no_late_failure ageFiles.reader "rule-check" "age.json"
    "minor.json"
  obtain ⟨report, lines, -, -, each, printed, -⟩ := (usable _ accepted).2.2 _ loaded
  exact ⟨⟨refused, (unusable _ refused).2⟩, accepted, loaded, lines, each, printed⟩

example : (run ageFiles.reader ["rule-check", "age.json", "minor.json"]).stdout =
    "Checking attribute definitions: age.json\n\n  ✓ age: required, min: 18\n" ++
      "      hints: input=text required=true min=18 max=- minLength=- maxLength=-\n" ++
      "\nValidating values: minor.json\n  ❌ age: min: 18\n" := by
  decide +kernel

end FormRules.Command
