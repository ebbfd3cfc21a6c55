/-
This file shows that rules see values and expectations without the blanks around them, and do not tell a
blank one from an absent one. Clauses may be written tidily, and values submitted so, without any difference
to a verdict.
-/

import FormRules.Proofs.Description
import FormRules.Proofs.Trimming
import FormRules.StandIn

namespace FormRules

/-- The clause with its expectation trimmed, or without it if it is blank. -/
def Clause.tidied (clause : Clause) : Clause :=
  { clause with expectation := Text.nonBlank? clause.expectation }

theorem Clause.display_tidied (clause : Clause) : clause.tidied.display = clause.display := by
  rw [display, display, tidied, Text.nonBlank?_nonBlank?]

theorem Clause.displayAll_tidied (clauses : List Clause) :
    displayAll (clauses.map tidied) = displayAll clauses := by
  rw [displayAll, displayAll, List.map_map]
  apply congrArg
  apply List.map_congr_left
  intro clause _
  exact display_tidied clause

/-- A constraint is about the trimmed value. -/
theorem Constraint.holds_nonBlank? [Pattern.Engine] (value : Option String) (constraint : Constraint) :
    constraint.Holds (Text.nonBlank? value) ↔ constraint.Holds value := by
  have text : Value.text (Text.nonBlank? value) = Value.text value := Text.trimOrEmpty_nonBlank? value
  cases constraint <;>
    simp only [Holds, Value.number?, Value.lengthNumber?, Value.length, text]

namespace Rule

theorem allows_nonBlank? [Pattern.Engine] (value : Option String) : allows (Text.nonBlank? value) = allows value := by
  funext described
  cases described with
  | none => rfl
  | some constraint => simp only [allows, Option.all_some, constraint.holds_nonBlank?]

theorem expected_nonBlank? (name : String) (expectation : Option String) :
    expected name (Text.nonBlank? expectation) = expected name expectation := by
  rw [expected, expected, Text.nonBlank?_nonBlank?]

section Blanks

variable [Pattern.Engine]

/-- A standard rule takes its expectation trimmed, or not at all. -/
theorem constraint?_nonBlank? {rule : Rule} (member : rule ∈ standard) (expectation : Option String) :
    rule.constraint? (Text.nonBlank? expectation) = rule.constraint? expectation := by
  simp only [standard, List.mem_cons, List.not_mem_nil, or_false] at member
  rcases member with rfl | rfl | rfl | rfl | rfl | rfl | rfl
  · rfl
  all_goals
    simp only [type, min, max, minLength, maxLength, bounding, regex, expectedNumber, expected_nonBlank?]

theorem check_nonBlank? {rule : Rule} (member : rule ∈ standard) (value expectation : Option String) :
    rule.check (Text.nonBlank? value) (Text.nonBlank? expectation) = rule.check value expectation := by
  have described := checksByConstraint_of_mem_standard member
  rw [described, described, constraint?_nonBlank? member, allows_nonBlank?]

end Blanks

end Rule

namespace Rulebook

variable {book : Rulebook}

section Blanks

variable [Pattern.Engine]

theorem constraint?_tidied (standard : book.rules ⊆ Rule.standard) (clause : Clause) :
    book.constraint? clause.tidied = book.constraint? clause := by
  simp only [constraint?, Clause.tidied]
  cases found : book.find? clause.name with
  | none => rfl
  | some rule => exact Rule.constraint?_nonBlank? (standard (mem_of_find? found)) clause.expectation

theorem apply_tidied (standard : book.rules ⊆ Rule.standard) (value : Option String) (clause : Clause) :
    book.apply (Text.nonBlank? value) clause.tidied = book.apply value clause := by
  simp only [apply, Clause.tidied]
  cases found : book.find? clause.name with
  | none => rfl
  | some rule =>
      exact Rule.check_nonBlank? (standard (mem_of_find? found)) value clause.expectation

theorem constraints_tidied (standard : book.rules ⊆ Rule.standard) (clauses : List Clause) :
    book.constraints (clauses.map Clause.tidied) = book.constraints clauses := by
  induction clauses with
  | nil => rfl
  | cons clause rest inductionHypothesis =>
      rw [List.map_cons, constraints, constraints, constraint?_tidied standard, inductionHypothesis]

/-- The verdict on a tidied value against tidied clauses is the verdict on what was written, with its clauses
tidied. -/
theorem checkClauses_tidied (standard : book.rules ⊆ Rule.standard) (value : Option String)
    (clauses : List Clause) :
    book.checkClauses (Text.nonBlank? value) (clauses.map Clause.tidied) =
      (book.checkClauses value clauses).map Clause.tidied :=
  checkClauses_map fun clause _ => apply_tidied standard value clause

/-- Blanks around a value or around an expectation change nothing, nor does it matter whether a blank one is
there at all. The verdict is as good or as bad, carries the same fault, reports the clauses at the same
positions and reads the same; the constraints are the same. -/
theorem blanks_have_no_meaning (book : Rulebook) (standard : book.rules ⊆ Rule.standard)
    (value : Option String) (clauses : List Clause) :
    (book.checkClauses (Text.nonBlank? value) (clauses.map Clause.tidied)).isValid =
      (book.checkClauses value clauses).isValid ∧
    (book.checkClauses (Text.nonBlank? value) (clauses.map Clause.tidied)).fault? =
      (book.checkClauses value clauses).fault? ∧
    ((book.reported value clauses).map Prod.fst = (book.checkClauses value clauses).failed ∧
      (book.reported (Text.nonBlank? value) (clauses.map Clause.tidied)).map Prod.fst =
        (book.checkClauses (Text.nonBlank? value) (clauses.map Clause.tidied)).failed ∧
      (book.reported (Text.nonBlank? value) (clauses.map Clause.tidied)).map Prod.snd =
        (book.reported value clauses).map Prod.snd) ∧
    (book.checkClauses (Text.nonBlank? value) (clauses.map Clause.tidied)).summary =
      (book.checkClauses value clauses).summary ∧
    book.constraints (clauses.map Clause.tidied) = book.constraints clauses := by
  have verdict := checkClauses_tidied standard value clauses
  have reports := reported_map (apply_tidied standard value) clauses
  refine ⟨?_, ?_, ⟨?_, ?_, ?_⟩, ?_, ?_⟩
  · rw [verdict, Verdict.isValid_map]
  · rw [verdict, Verdict.fault?_map]
  · exact map_fst_reported book value clauses
  · exact map_fst_reported book _ _
  · rw [reports, List.map_map]
    rfl
  · rw [verdict, Verdict.summary, Verdict.failed_map, Clause.displayAll_tidied, Verdict.summary]
  · exact constraints_tidied standard clauses

end Blanks

open scoped StandIn

/-- A next-line character behind the value and blanks around the bounds do not count, and the second bound is
the one that fails. -/
theorem blanks_around_bounds_have_no_meaning :
    Rulebook.standard.rules ⊆ Rule.standard ∧
    (standard.checkClauses (some "abc") [⟨"required", none⟩, ⟨"maxLength", some "2"⟩]).failed =
      [⟨"maxLength", some "2"⟩] ∧
    (standard.checkClauses (some " abc\u0085") [⟨"required", some " "⟩, ⟨"maxLength", some "\t2 "⟩]).failed =
      [⟨"maxLength", some "\t2 "⟩] ∧
    (standard.reported (some "abc") [⟨"required", none⟩, ⟨"maxLength", some "2"⟩]).map Prod.snd =
      (standard.reported (some " abc\u0085")
        [⟨"required", some " "⟩, ⟨"maxLength", some "\t2 "⟩]).map Prod.snd ∧
    (standard.checkClauses (some "abc") [⟨"required", none⟩, ⟨"maxLength", some "2"⟩]).summary =
      (standard.checkClauses (some " abc\u0085")
        [⟨"required", some " "⟩, ⟨"maxLength", some "\t2 "⟩]).summary ∧
    standard.constraints [⟨"required", none⟩, ⟨"maxLength", some "2"⟩] =
      standard.constraints [⟨"required", some " "⟩, ⟨"maxLength", some "\t2 "⟩] := by
  have known : standard.rules ⊆ Rule.standard := List.Subset.refl _
  have value : Text.nonBlank? (some " abc\u0085") = some "abc" := by decide
  have clauses : [⟨"required", some " "⟩, ⟨"maxLength", some "\t2 "⟩].map Clause.tidied =
      [⟨"required", none⟩, ⟨"maxLength", some "2"⟩] := by
    decide
  obtain ⟨-, -, ⟨-, -, positions⟩, summary, constraints⟩ :=
    blanks_have_no_meaning standard known (some " abc\u0085")
      [⟨"required", some " "⟩, ⟨"maxLength", some "\t2 "⟩]
  rw [value, clauses] at positions summary
  rw [clauses] at constraints
  exact ⟨known, by decide +kernel, by decide +kernel, positions, summary, constraints⟩

end Rulebook

end FormRules
