/-
This file shows that the views of a report agree. They choose entries by two tests, for validity and for
misconfiguration, and go together because a verdict fails exactly if it has failed clauses, and because no clause of a
definition is displayed as the empty text.
-/

import FormRules.Proofs.Pointwise
import FormRules.Proofs.Writing
import FormRules.StandIn

namespace FormRules

namespace Clause

theorem display_ne_empty {clause : Clause} (named : clause.name ≠ "") : clause.display ≠ "" := by
  unfold display
  cases Text.nonBlank? clause.expectation with
  | none => exact named
  | some text => simp [named]

/-- Only where there are no clauses is the empty text displayed, if all clauses have names. -/
theorem displayAll_ne_empty {clauses : List Clause} (named : ∀ clause ∈ clauses, clause.name ≠ "")
    (given : clauses ≠ []) : displayAll clauses ≠ "" := by
  cases clauses with
  | nil => exact absurd rfl given
  | cons first rest =>
      have shown := display_ne_empty (named first List.mem_cons_self)
      cases rest <;> simp [displayAll, shown]

end Clause

namespace Verdict

variable {verdict : Verdict}

theorem isValid_eq_false_iff : verdict.isValid = false ↔ verdict.failed ≠ [] := by
  rw [← Bool.not_eq_true, Ne, isValid_iff]

theorem fault?_of_isValid (valid : verdict.isValid = true) : verdict.fault? = none := by
  cases verdict with
  | checked clauses => rfl
  | misconfigured clause fault => cases valid

theorem summary_misconfigured (clause : Clause) (fault : Fault) :
    (misconfigured clause fault).summary = clause.display := by
  show ", ".intercalate [clause.display] = clause.display
  exact String.intercalate_singleton

end Verdict

namespace Rulebook

variable {book : Rulebook} {value : Option String}

/-- Clauses are reported in the order in which they stand, and none more often. -/
theorem failed_checkClauses_sublist (book : Rulebook) (value : Option String) (clauses : List Clause) :
    (book.checkClauses value clauses).failed.Sublist clauses := by
  rw [failed_checkClauses]
  cases found : clauses.find? (book.faultsAlone value) with
  | none => exact List.filter_sublist
  | some clause => exact List.singleton_sublist.2 (List.mem_of_find?_eq_some found)

theorem exists_firstError_of_isMisconfigured {clauses : List Clause}
    (misconfigured : (book.checkClauses value clauses).isMisconfigured = true) :
    ∃ clause fault, FirstError (book.apply value) clauses clause fault ∧
      book.checkClauses value clauses = .misconfigured clause fault := by
  obtain ⟨fault, carried⟩ := Option.isSome_iff_exists.1 misconfigured
  obtain ⟨clause, first⟩ := fault?_checkClauses.1 carried
  exact ⟨clause, fault, first, checkClauses_of_firstError first⟩

/-- The text for failed clauses that were read is not empty. -/
theorem summary_checkClauses_ne_empty {definition : String} {set : ClauseSet}
    (read : Definition.read book definition = .ok set)
    (failed : (book.checkClauses value set.clauses).isValid = false) :
    (book.checkClauses value set.clauses).summary ≠ "" := by
  apply Clause.displayAll_ne_empty
  · intro clause member
    have inside := (book.failed_checkClauses_sublist value set.clauses).subset member
    exact (Definition.wellFormed_of_read read clause inside).1.named
  · exact Verdict.isValid_eq_false_iff.1 failed

end Rulebook

namespace Report

variable {report : Report} {field message : String} {verdict : Verdict}

theorem mem_invalid_iff :
    field ∈ report.invalid ↔ ∃ verdict, report.get? field = some verdict ∧ verdict.isValid = false := by
  rw [invalid, NameMap.mem_map_filter_entries_iff fun verdict : Verdict => !verdict.isValid]
  simp only [Bool.not_eq_true']

theorem isValid_of_not_mem_invalid (reported : report.get? field = some verdict)
    (outside : field ∉ report.invalid) : verdict.isValid = true := by
  by_contra failed
  exact outside (mem_invalid_iff.2 ⟨verdict, reported, Bool.eq_false_of_not_eq_true failed⟩)

theorem isMisconfigured_of_mem_misconfigured (reported : report.get? field = some verdict)
    (listed : field ∈ report.misconfigured) : verdict.isMisconfigured = true := by
  rw [misconfigured, NameMap.mem_map_filter_entries_iff] at listed
  obtain ⟨other, otherReported, carries⟩ := listed
  rw [reported] at otherReported
  cases otherReported
  exact carries

theorem mem_messages_iff :
    (field, message) ∈ report.messages ↔
      ∃ verdict, report.get? field = some verdict ∧ verdict.isValid = false ∧ verdict.summary = message := by
  simp only [messages, List.mem_map, List.mem_filter, Prod.exists, Prod.mk.injEq, NameMap.get?_eq_some_iff,
    Bool.not_eq_true']
  constructor
  · intro listed
    obtain ⟨_, verdict, ⟨entry, failed⟩, rfl, summary⟩ := listed
    exact ⟨verdict, entry, failed, summary⟩
  · intro reported
    obtain ⟨verdict, entry, failed, summary⟩ := reported
    exact ⟨field, verdict, ⟨entry, failed⟩, rfl, summary⟩

theorem map_fst_messages (report : Report) : report.messages.map Prod.fst = report.invalid := by
  rw [messages, List.map_map]
  rfl

theorem isValid_iff_invalid_eq_nil : report.isValid = true ↔ report.invalid = [] := by
  simp [isValid, invalid]

/-- What is misconfigured counts as failed. -/
theorem misconfigured_sublist_invalid (report : Report) : report.misconfigured.Sublist report.invalid := by
  apply List.Sublist.map
  apply List.monotone_filter_right
  intro entry misconfigured
  simp [Verdict.isValid_eq_false_of_isMisconfigured misconfigured]

end Report

namespace Form

variable {book : Rulebook} {form : Form} {values : NameMap String} {report : Report} {field : String}
  {verdict : Verdict}

/-- An entry of a report is what comes of checking the clauses in the definition of its field. -/
theorem exists_read_of_reported (validated : validate book form values = .ok report)
    (reported : report.get? field = some verdict) :
    ∃ definition set, form.get? field = some definition ∧ Definition.read book definition = .ok set ∧
      book.checkClauses (values.get? field) set.clauses = verdict := by
  obtain ⟨definition, defined, checked⟩ := (NameMap.get?_traverse validated).1 reported
  obtain ⟨set, read, checkedHere⟩ := checkField_eq_ok_iff.1 checked
  exact ⟨definition, set, defined, read, checkedHere⟩

/-- A report is valid exactly if no field is invalid, and exactly then there are no messages. The invalid fields are
those that have a message, in the order of the bytes of their names, and the misconfigured fields are among them.
Nothing has failed in any other field. A message is not empty and displays what has failed, which is part of what was
read from the definition of the field, in the same order and without repetitions. In a misconfigured field it is the
first clause that cannot be applied. -/
theorem views_of_report_agree (book : Rulebook) (form : Form) (values : NameMap String) (report : Report)
    (validated : validate book form values = .ok report) :
    (report.isValid = true ↔ report.invalid = []) ∧
    (report.invalid = [] ↔ report.messages = []) ∧
    report.messages.map Prod.fst = report.invalid ∧
    (report.invalid.Pairwise fun first second => Text.bytes first < Text.bytes second) ∧
    report.misconfigured.Sublist report.invalid ∧
    (∀ field verdict, report.get? field = some verdict → field ∉ report.invalid →
      verdict.failed = [] ∧ verdict.fault? = none) ∧
    ∀ field message, (field, message) ∈ report.messages → message ≠ "" ∧
      ∃ definition set verdict, form.get? field = some definition ∧ Definition.read book definition = .ok set ∧
        report.get? field = some verdict ∧
        message = ", ".intercalate (verdict.failed.map Clause.display) ∧
        verdict.failed.Sublist set.clauses ∧ verdict.failed.Nodup ∧
        (field ∈ report.misconfigured → ∃ clause fault,
          FirstError (book.apply (values.get? field)) set.clauses clause fault ∧
          verdict = .misconfigured clause fault ∧ message = clause.display) := by
  have keys := report.map_fst_messages
  refine ⟨Report.isValid_iff_invalid_eq_nil, ?_, keys, ?_, report.misconfigured_sublist_invalid, ?_, ?_⟩
  · rw [← keys, List.map_eq_nil_iff]
  · exact (NameMap.increasing_map_filter_entries report _).imp Text.bytes_lt_iff.2
  · intro field verdict reported outside
    have valid := Report.isValid_of_not_mem_invalid reported outside
    exact ⟨Verdict.isValid_iff.1 valid, Verdict.fault?_of_isValid valid⟩
  · intro field message listed
    obtain ⟨verdict, reported, failed, rfl⟩ := Report.mem_messages_iff.1 listed
    obtain ⟨definition, set, defined, read, rfl⟩ := exists_read_of_reported validated reported
    have sublist := book.failed_checkClauses_sublist (values.get? field) set.clauses
    refine ⟨Rulebook.summary_checkClauses_ne_empty read failed, definition, set, _, defined, read, reported, rfl,
      sublist, set.nodup.sublist sublist, ?_⟩
    intro misconfigured
    obtain ⟨clause, fault, first, single⟩ := Rulebook.exists_firstError_of_isMisconfigured
      (Report.isMisconfigured_of_mem_misconfigured reported misconfigured)
    refine ⟨clause, fault, first, single, ?_⟩
    rw [single, Verdict.summary_misconfigured]

open scoped StandIn

/-- A failing field, one that passes without a value, and one whose second clause is misconfigured, so that what is
wrong with its value is not reported. -/
theorem views_of_mixed_report :
    ∃ report, validate .standard
        (.ofList [("size", "type:number; min:tall"), ("note", "max:9"), ("name", "minLength:3; maxLength:1")])
        (.ofList [("name", "ab"), ("size", "x")]) = .ok report ∧
      report.messages = [("name", "minLength: 3, maxLength: 1"), ("size", "min: tall")] ∧
      report.invalid = ["name", "size"] ∧ report.isValid = false ∧
      (∃ verdict, report.get? "note" = some verdict ∧ verdict.failed = [] ∧ verdict.fault? = none) ∧
      ∃ set : ClauseSet, FirstError (Rulebook.standard.apply (some "x")) set.clauses ⟨"min", some "tall"⟩
        (.invalidNumber "min" "tall") := by
  obtain ⟨report, validated, messages, note, size, misconfigured⟩ : ∃ report, validate .standard
        (.ofList [("size", "type:number; min:tall"), ("note", "max:9"), ("name", "minLength:3; maxLength:1")])
        (.ofList [("name", "ab"), ("size", "x")]) = .ok report ∧
      report.messages = [("name", "minLength: 3, maxLength: 1"), ("size", "min: tall")] ∧
      report.get? "note" = some .passed ∧
      report.get? "size" = some (.misconfigured ⟨"min", some "tall"⟩ (.invalidNumber "min" "tall")) ∧
      "size" ∈ report.misconfigured :=
    ⟨.ofList [("name", .checked [⟨"minLength", some "3"⟩, ⟨"maxLength", some "1"⟩]), ("note", .passed),
        ("size", .misconfigured ⟨"min", some "tall"⟩ (.invalidNumber "min" "tall"))],
      by decide +kernel, by decide +kernel, by decide +kernel, by decide +kernel, by decide +kernel⟩
  obtain ⟨valid, -, keys, -, -, passed, explained⟩ := views_of_report_agree .standard _ _ _ validated
  have invalid : report.invalid = ["name", "size"] := by
    rw [← keys, messages]
    rfl
  refine ⟨report, validated, messages, invalid, ?_, ⟨_, note, passed "note" _ note ?_⟩, ?_⟩
  · rw [← Bool.not_eq_true, valid, invalid]
    decide
  · rw [invalid]
    decide
  · have listed : ("size", "min: tall") ∈ report.messages := by
      rw [messages]
      decide
    obtain ⟨-, _, set, verdict, -, -, reported, -, -, -, faulty⟩ := explained _ _ listed
    obtain ⟨clause, fault, first, rfl, -⟩ := faulty misconfigured
    rw [size] at reported
    cases reported
    exact ⟨set, first⟩

end Form

end FormRules
