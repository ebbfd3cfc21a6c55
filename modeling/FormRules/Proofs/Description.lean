/-
This file relates the two paths of a rule: the check of a value, and the constraint that describes what is
checked.
-/

import FormRules.Proofs.Checking
import FormRules.Proofs.Rounding
import FormRules.StandIn
import Mathlib.Data.List.Forall2

namespace FormRules

namespace Rule

section Descriptions

variable [Pattern.Engine]

/-- What a constraint says of a value. A rule that describes nothing says nothing. -/
def allows (value : Option String) (constraint : Option Constraint) : Bool :=
  constraint.all fun constraint => decide (constraint.Holds value)

/-- The rule checks a value by the constraint that it describes, and fails only with the description. -/
def ChecksByConstraint (rule : Rule) : Prop :=
  ∀ value expectation,
    rule.check value expectation = (rule.constraint? expectation).map (allows value)

theorem allows_some {value : Option String} {constraint : Constraint} {passes : Bool}
    (decides : passes = true ↔ constraint.Holds value) : allows value (some constraint) = passes := by
  cases passes <;> simp_all [allows]

theorem required_checksByConstraint : required.ChecksByConstraint := by
  intro value expectation
  apply congrArg Except.ok
  refine (allows_some ?_).symm
  cases value with
  | none => simp [Constraint.Holds, Value.text, Text.trimOrEmpty]
  | some text =>
      by_cases blank : Text.trim text = "" <;>
        simp [Constraint.Holds, Value.text, Text.trimOrEmpty, Text.nonBlank?, blank]

theorem type_checksByConstraint : type.ChecksByConstraint := by
  intro value expectation
  simp only [type, bind, Except.bind, Except.map, pure, Except.pure]
  cases expected "type" expectation with
  | error fault => rfl
  | ok name =>
      cases named : Kind.named name with
      | error fault => simp [named]
      | ok kind =>
          have decides : kind.accepts (Value.text value) = true ↔
              (Constraint.type kind).Holds value := Iff.rfl
          simp only [named, allows_some decides]

/-- A bounding rule checks by its constraint if it compares as the constraint says. -/
theorem bounding_checksByConstraint {name : String} {describe : Double → Constraint}
    {passes : Double → Option String → Bool}
    (decides : ∀ bound value, passes bound value = true ↔ (describe bound).Holds value) :
    (bounding name describe passes).ChecksByConstraint := by
  intro value expectation
  simp only [bounding, bind, Except.bind, Except.map, pure, Except.pure]
  cases expectedNumber name expectation with
  | error fault => rfl
  | ok bound => simp only [allows_some (decides bound value)]

theorem min_checksByConstraint : min.ChecksByConstraint :=
  bounding_checksByConstraint fun bound value => by simp [Constraint.Holds, Option.any_eq_true]

theorem max_checksByConstraint : max.ChecksByConstraint :=
  bounding_checksByConstraint fun bound value => by simp [Constraint.Holds, Option.any_eq_true]

theorem minLength_checksByConstraint : minLength.ChecksByConstraint :=
  bounding_checksByConstraint fun bound value => by simp [Constraint.Holds, Option.all_eq_true]

theorem maxLength_checksByConstraint : maxLength.ChecksByConstraint :=
  bounding_checksByConstraint fun bound value => by simp [Constraint.Holds, Option.any_eq_true]

theorem regex_checksByConstraint : regex.ChecksByConstraint := by
  intro value expectation
  simp only [regex, bind, Except.bind, Except.map, pure, Except.pure, Pattern.spelled]
  cases expected "regex" expectation with
  | error fault => rfl
  | ok text =>
      cases compiled : Pattern.compile text with
      | error cause => simp [compiled]
      | ok pattern =>
          have decides : pattern.accepts (Value.text value) = true ↔
              (Constraint.pattern text).Holds value := by
            simp [Constraint.Holds, compiled]
          simp only [compiled, allows_some decides]

theorem checksByConstraint_of_mem_standard {rule : Rule} (member : rule ∈ standard) :
    rule.ChecksByConstraint := by
  simp only [standard, List.mem_cons, List.not_mem_nil, or_false] at member
  rcases member with rfl | rfl | rfl | rfl | rfl | rfl | rfl
  · exact required_checksByConstraint
  · exact type_checksByConstraint
  · exact min_checksByConstraint
  · exact max_checksByConstraint
  · exact minLength_checksByConstraint
  · exact maxLength_checksByConstraint
  · exact regex_checksByConstraint

/-- A standard rule describes what it asks for whenever it does not fail. -/
theorem described_of_mem_standard {rule : Rule} (member : rule ∈ standard)
    (expectation : Option String) : rule.constraint? expectation ≠ .ok none := by
  simp only [standard, List.mem_cons, List.not_mem_nil, or_false] at member
  rcases member with rfl | rfl | rfl | rfl | rfl | rfl | rfl <;>
    simp only [required, type, min, max, minLength, maxLength, bounding, regex, bind_eq_ok_iff,
      pure_eq_ok_iff, Except.ok.injEq, reduceCtorEq, and_false, exists_false, ne_eq, not_false_eq_true]

end Descriptions

end Rule

namespace Rulebook

variable {book : Rulebook}

theorem mem_of_find? {name : String} {rule : Rule} (found : book.find? name = some rule) :
    rule ∈ book.rules :=
  List.mem_of_find?_eq_some found

/-- The constraints of clauses fail with the first fault that one of them raises. -/
theorem constraints_eq_error_iff {clauses : List Clause} {fault : Fault} :
    book.constraints clauses = .error fault ↔
      ∃ clause, FirstError book.constraint? clauses clause fault := by
  induction clauses with
  | nil => simp [constraints]
  | cons head rest inductionHypothesis =>
      simp only [constraints, bind_eq_error_iff, inductionHypothesis, pure_ne_error, and_false,
        exists_false, or_false, exists_first_cons, exists_and_right, exists_ok_iff, ne_eq]

section Descriptions

variable [Pattern.Engine]

/-- The constraint of a clause decides what becomes of any value. -/
theorem apply_eq_map_constraint? (standard : book.rules ⊆ Rule.standard) (value : Option String)
    (clause : Clause) :
    book.apply value clause = (book.constraint? clause).map (Rule.allows value) := by
  unfold apply constraint?
  cases found : book.find? clause.name with
  | none => rfl
  | some rule =>
      exact Rule.checksByConstraint_of_mem_standard (standard (mem_of_find? found)) value _

/-- A standard rule describes each clause whose expectation it can interpret. -/
theorem described_of_constraint? (standard : book.rules ⊆ Rule.standard) {clause : Clause}
    {described : Option Constraint} (interpreted : book.constraint? clause = .ok described) :
    ∃ constraint, described = some constraint := by
  unfold constraint? at interpreted
  split at interpreted
  · cases interpreted
  · rename_i rule found
    cases described with
    | none =>
        exact absurd interpreted (Rule.described_of_mem_standard (standard (mem_of_find? found)) _)
    | some constraint => exact ⟨constraint, rfl⟩

/-- Each clause has its constraint at its own position. -/
theorem forall₂_of_constraints (standard : book.rules ⊆ Rule.standard) {clauses : List Clause}
    {constraints : List Constraint} (described : book.constraints clauses = .ok constraints) :
    List.Forall₂ (fun clause constraint => book.constraint? clause = .ok (some constraint))
      clauses constraints := by
  induction clauses generalizing constraints with
  | nil =>
      cases described
      exact .nil
  | cons clause rest inductionHypothesis =>
      simp only [Rulebook.constraints, bind_eq_ok_iff, pure_eq_ok_iff] at described
      obtain ⟨first, head, others, tail, rfl⟩ := described
      obtain ⟨constraint, rfl⟩ := described_of_constraint? standard head
      exact .cons head (inductionHypothesis tail)

/-- A clause fails alone exactly the values that do not satisfy its constraint. -/
theorem failsAlone_of_constraint? (standard : book.rules ⊆ Rule.standard) {clause : Clause}
    {constraint : Constraint} (described : book.constraint? clause = .ok (some constraint))
    (value : Option String) : book.failsAlone value clause = decide (¬ constraint.Holds value) := by
  have applied := apply_eq_map_constraint? standard value clause
  rw [described] at applied
  rw [failsAlone_of_apply applied]
  simp [Rule.allows]

theorem allOk_apply_of_constraints (standard : book.rules ⊆ Rule.standard) {clauses : List Clause}
    {constraints : List Constraint}
    (described : List.Forall₂ (fun clause constraint =>
      book.constraint? clause = .ok (some constraint)) clauses constraints)
    (value : Option String) : AllOk (book.apply value) clauses := by
  induction described with
  | nil => exact allOk_nil _
  | cons head _ inductionHypothesis =>
      refine allOk_cons.2 ⟨?_, inductionHypothesis⟩
      rw [apply_eq_map_constraint? standard, head]
      exact ⟨_, rfl⟩

/-- The clauses whose constraints, taken from the same positions, the value does not satisfy. -/
def unsatisfied (value : Option String) (clauses : List Clause) (constraints : List Constraint) :
    List Clause :=
  ((clauses.zip constraints).filter fun pair => ¬ pair.2.Holds value).map Prod.fst

theorem filter_failsAlone_eq_unsatisfied (standard : book.rules ⊆ Rule.standard)
    {clauses : List Clause} {constraints : List Constraint}
    (described : List.Forall₂ (fun clause constraint =>
      book.constraint? clause = .ok (some constraint)) clauses constraints)
    (value : Option String) :
    clauses.filter (book.failsAlone value) = unsatisfied value clauses constraints := by
  induction described with
  | nil => rfl
  | @cons clause constraint rest others head _ inductionHypothesis =>
      have alone := failsAlone_of_constraint? standard head value
      by_cases holds : constraint.Holds value <;> simp_all [unsatisfied]

theorem checkClauses_of_constraints (standard : book.rules ⊆ Rule.standard) {clauses : List Clause}
    {constraints : List Constraint} (described : book.constraints clauses = .ok constraints)
    (value : Option String) :
    book.checkClauses value clauses = .checked (unsatisfied value clauses constraints) := by
  have related := forall₂_of_constraints standard described
  rw [checkClauses_of_allOk (allOk_apply_of_constraints standard related value),
    filter_failsAlone_eq_unsatisfied standard related]

theorem unsatisfied_eq_nil {value : Option String} {clauses : List Clause}
    {constraints : List Constraint} (sameLength : clauses.length = constraints.length) :
    unsatisfied value clauses constraints = [] ↔ ∀ constraint ∈ constraints, constraint.Holds value := by
  have second : (clauses.zip constraints).map Prod.snd = constraints :=
    List.map_snd_zip (Nat.le_of_eq sameLength.symm)
  rw [unsatisfied, List.map_eq_nil_iff, List.filter_eq_nil_iff]
  constructor
  · intro none constraint member
    rw [← second] at member
    obtain ⟨pair, paired, rfl⟩ := List.mem_map.1 member
    simpa using none pair paired
  · intro all pair paired
    have member : pair.2 ∈ constraints := second ▸ List.mem_map_of_mem paired
    simpa using all pair.2 member

/-- A value passes if and only if it satisfies all constraints. -/
theorem isValid_checkClauses_iff (standard : book.rules ⊆ Rule.standard) {clauses : List Clause}
    {constraints : List Constraint} (described : book.constraints clauses = .ok constraints)
    (value : Option String) :
    (book.checkClauses value clauses).isValid = true ↔
      ∀ constraint ∈ constraints, constraint.Holds value := by
  rw [checkClauses_of_constraints standard described, Verdict.isValid_iff]
  exact unsatisfied_eq_nil (forall₂_of_constraints standard described).length_eq

end Descriptions

end Rulebook

/-- Up to 2 ^ 53 characters the number of characters is compared as it is. -/
theorem Value.forall_lengthNumber?_iff {value : Option String} {bound : Double}
    (short : Value.length value < twoTo binary64.precision) :
    (∀ x, Value.lengthNumber? value = some x → bound ≤ x) ↔
      bound.units ≤ (Value.length value * twoTo binary64.lowest : Nat) := by
  obtain ⟨x, rounded, units⟩ := Binary.ofNat?_of_few short (by decide)
  have number : Value.lengthNumber? value = some x := rounded
  simp only [number, Option.some.injEq, forall_eq', ← units]
  rfl

theorem Value.exists_lengthNumber?_iff {value : Option String} {bound : Double}
    (short : Value.length value < twoTo binary64.precision) :
    (∃ x, Value.lengthNumber? value = some x ∧ x ≤ bound) ↔
      (Value.length value * twoTo binary64.lowest : Nat) ≤ bound.units := by
  obtain ⟨x, rounded, units⟩ := Binary.ofNat?_of_few short (by decide)
  have number : Value.lengthNumber? value = some x := rounded
  simp only [number, Option.some.injEq, exists_eq_left', ← units]
  rfl

namespace Rulebook

/-- The constraints of clauses say all that a check does: a value fails at exactly the positions where it
does not satisfy the constraint, and clauses with the same constraints accept the same values. Lengths of
less than 2 ^ 53 characters are compared without being rounded. -/
theorem constraints_describe_check [Pattern.Engine] (book : Rulebook) (standard : book.rules ⊆ Rule.standard)
    (clauses : List Clause) (constraints : List Constraint)
    (described : book.constraints clauses = .ok constraints) :
    constraints.length = clauses.length ∧
    (∀ value, (book.checkClauses value clauses).fault? = none ∧
      (book.checkClauses value clauses).failed = unsatisfied value clauses constraints) ∧
    (∀ others, book.constraints others = .ok constraints →
      ∀ value, (book.checkClauses value others).isValid = (book.checkClauses value clauses).isValid) ∧
    (∀ value, Value.length value < twoTo binary64.precision → ∀ bound : Double,
      ((Constraint.minLength bound).Holds value ↔
        bound.units ≤ (Value.length value * twoTo binary64.lowest : Nat)) ∧
      ((Constraint.maxLength bound).Holds value ↔
        (Value.length value * twoTo binary64.lowest : Nat) ≤ bound.units)) := by
  refine ⟨(forall₂_of_constraints standard described).length_eq.symm, ?_, ?_, ?_⟩
  · intro value
    rw [checkClauses_of_constraints standard described]
    exact ⟨rfl, rfl⟩
  · intro others othersDescribed value
    rw [Bool.eq_iff_iff, isValid_checkClauses_iff standard othersDescribed,
      isValid_checkClauses_iff standard described]
  · intro value short bound
    exact ⟨Value.forall_lengthNumber?_iff short, Value.exists_lengthNumber?_iff short⟩

open scoped StandIn

/-- Other spellings of a type and a bound accept the same values. -/
theorem same_values_for_other_spellings :
    Rulebook.standard.rules ⊆ Rule.standard ∧
    standard.constraints [⟨"type", some "int"⟩, ⟨"min", some "1"⟩] =
      .ok [.type .integer, .min ⟨false, twoTo 52, 1022, by decide, by decide, by decide⟩] ∧
    standard.constraints [⟨"type", some " INTEGER"⟩, ⟨"min", some "10e-1"⟩] =
      .ok [.type .integer, .min ⟨false, twoTo 52, 1022, by decide, by decide, by decide⟩] ∧
    ∀ value,
      (standard.checkClauses value [⟨"type", some " INTEGER"⟩, ⟨"min", some "10e-1"⟩]).isValid =
        (standard.checkClauses value [⟨"type", some "int"⟩, ⟨"min", some "1"⟩]).isValid := by
  have known : standard.rules ⊆ Rule.standard := List.Subset.refl _
  have short : standard.constraints [⟨"type", some "int"⟩, ⟨"min", some "1"⟩] =
      .ok [.type .integer, .min ⟨false, twoTo 52, 1022, by decide, by decide, by decide⟩] := by
    decide +kernel
  have long : standard.constraints [⟨"type", some " INTEGER"⟩, ⟨"min", some "10e-1"⟩] =
      .ok [.type .integer, .min ⟨false, twoTo 52, 1022, by decide, by decide, by decide⟩] := by
    decide +kernel
  obtain ⟨_, _, same, _⟩ := constraints_describe_check standard known _ _ short
  exact ⟨known, short, long, same _ long⟩

end Rulebook

end FormRules
