/-
This file shows what can still go wrong with a definition that was read. Every rule that it names is there and
has the expectation that it needs; only what the expectation says may have no meaning for the rule. That does
not change when more rules are entered.
-/

import FormRules.Proofs.Growth
import FormRules.Proofs.Misconfiguration
import FormRules.StandIn

namespace FormRules

/-- The expectation of a clause, as it was read, has no meaning for its rule. -/
inductive Clause.Illegible [Pattern.Engine] (clause : Clause) : Fault → Prop
  | number (named : clause.name ∈ ["min", "max", "minLength", "maxLength"]) {text : String}
      (written : clause.expectation = some text) (unreadable : Value.numberOfText? text = none) :
      Illegible clause (.invalidNumber clause.name text)
  | type (named : clause.name = "type") {text : String} (written : clause.expectation = some text)
      (unsupported : Kind.ofName? text = none) : Illegible clause (.unsupportedType text)
  | pattern (named : clause.name = "regex") {text : String} {cause : PatternError}
      (written : clause.expectation = some text) (rejected : Pattern.compile text = .error cause) :
      Illegible clause (.invalidPattern text cause)

theorem Rule.needsExpectation_of_mem [Pattern.Engine] {rule : Rule} (member : rule ∈ standard ++ extra)
    (asks : rule.name ∈ ["type", "min", "max", "minLength", "maxLength", "regex"]) :
    rule.needsExpectation = true := by
  simp only [standard, extra, List.cons_append, List.nil_append, List.mem_cons, List.not_mem_nil,
    or_false] at member
  rcases member with rfl | rfl | rfl | rfl | rfl | rfl | rfl | rfl | rfl
  · simp [required] at asks
  · rfl
  · rfl
  · rfl
  · rfl
  · rfl
  · rfl
  · simp [uppercase] at asks
  · rfl

namespace Rulebook

variable {book : Rulebook} {clause : Clause} {fault : Fault}

section Contents

variable [Pattern.Engine]

/-- A clause that is served lacks no expectation that its rule could miss. -/
theorem nonBlank?_ne_none_of_serves (known : book.rules ⊆ Rule.standard ++ Rule.extra)
    (served : book.Serves clause)
    (asks : clause.name ∈ ["type", "min", "max", "minLength", "maxLength", "regex"]) :
    Text.nonBlank? clause.expectation ≠ none := by
  obtain ⟨rule, found, provided⟩ := served
  rw [← find?_name found] at asks
  exact provided (Rule.needsExpectation_of_mem (known (mem_of_find? found)) asks)

/-- A trimmed expectation is given to the rule as it was read. -/
theorem nonBlank?_eq_some_iff_of_serves (known : book.rules ⊆ Rule.standard ++ Rule.extra)
    (served : book.Serves clause)
    (trims : ∀ text, clause.expectation = some text → Text.trim text = text)
    (asks : clause.name ∈ ["type", "min", "max", "minLength", "maxLength", "regex"]) (text : String) :
    Text.nonBlank? clause.expectation = some text ↔ clause.expectation = some text := by
  have present := nonBlank?_ne_none_of_serves known served asks
  have kept := Text.nonBlank?_eq_filter trims
  rw [kept] at present ⊢
  cases whole : clause.expectation with
  | none => simp
  | some other =>
      by_cases empty : other = ""
      · rw [whole, Option.filter_some_neg (by simp [empty])] at present
        exact absurd rfl present
      · rw [Option.filter_some_pos (by simp [empty])]

/-- Of the faults that a rule can find in an expectation, a clause that was read keeps those that depend on
what the expectation says. -/
theorem illegible_iff_misfit (known : book.rules ⊆ Rule.standard ++ Rule.extra)
    (served : book.Serves clause)
    (trims : ∀ text, clause.expectation = some text → Text.trim text = text) :
    clause.Illegible fault ↔ clause.Misfit fault := by
  have same := nonBlank?_eq_some_iff_of_serves known served trims
  constructor
  · intro illegible
    cases illegible with
    | number named written unreadable =>
        have asks := List.mem_cons_of_mem "type" (List.mem_append_left ["regex"] named)
        exact .number named ((same asks _).2 written) unreadable
    | type named written unsupported =>
        exact .type named ((same (by simp [named]) _).2 written) unsupported
    | pattern named written rejected =>
        exact .pattern named ((same (by simp [named]) _).2 written) rejected
  · intro misfit
    cases misfit with
    | missing asks blank => exact absurd blank (nonBlank?_ne_none_of_serves known served asks)
    | number named written unreadable =>
        have asks := List.mem_cons_of_mem "type" (List.mem_append_left ["regex"] named)
        exact .number named ((same asks _).1 written) unreadable
    | type named written unsupported =>
        exact .type named ((same (by simp [named]) _).1 written) unsupported
    | pattern named written rejected =>
        exact .pattern named ((same (by simp [named]) _).1 written) rejected

/-- The fault of a check against clauses that were read is in the first illegible one, whatever the value. -/
theorem fault?_checkClauses_of_read (known : book.rules ⊆ Rule.standard ++ Rule.extra)
    {definition : String} {set : ClauseSet} (read : Definition.read book definition = .ok set)
    (value : Option String) :
    (book.checkClauses value set.clauses).fault? = some fault ↔
      ∃ clause, First Clause.Illegible set.clauses clause fault ∧
        (book.checkClauses value set.clauses).failed = [clause] := by
  have served := Definition.serves_of_read read
  have illegible : ∀ {clause fault}, FirstError (book.apply value) set.clauses clause fault ↔
      First Clause.Illegible set.clauses clause fault := by
    intro clause fault
    apply first_congr
    intro other member otherFault
    obtain ⟨segment, -, spelled, -, -⟩ := Definition.exists_spells_of_read read member
    rw [illegible_iff_misfit known (served other member) (Definition.trim_of_spells spelled).2]
    exact apply_eq_error_iff_misfit known (served other member) value
  rw [fault?_checkClauses]
  apply exists_congr
  intro clause
  rw [illegible]
  constructor
  · intro first
    rw [checkClauses_of_firstError (illegible.2 first)]
    exact ⟨first, rfl⟩
  · intro found
    exact found.1

/-- A definition that was read cannot name an unknown rule or miss an expectation later on, although more
rules were entered or turned away in between. If a check carries a fault, the first clause whose expectation
is illegible is all that failed, and the fault tells the name and the expectation that were read. -/
theorem read_clauses_fault_on_contents (book : Rulebook)
    (known : book.rules ⊆ Rule.standard ++ Rule.extra) (definition : String) (set : ClauseSet)
    (read : Definition.read book definition = .ok set) (entered : List Rule) (value : Option String) :
    (∀ name, ((book.attemptAll entered).checkClauses value set.clauses).fault? ≠
      some (.unknownRule name)) ∧
    (∀ name, ((book.attemptAll entered).checkClauses value set.clauses).fault? ≠
      some (.missingExpectation name)) ∧
    (∀ fault, ((book.attemptAll entered).checkClauses value set.clauses).fault? = some fault ↔
      ∃ clause, First Clause.Illegible set.clauses clause fault ∧
        ((book.attemptAll entered).checkClauses value set.clauses).failed = [clause]) := by
  have found : ∀ clause ∈ set.clauses, ∃ rule, book.find? clause.name = some rule := by
    intro clause member
    obtain ⟨rule, found, -⟩ := Definition.serves_of_read read clause member
    exact ⟨rule, found⟩
  rw [checkClauses_attemptAll found entered]
  refine ⟨?_, ?_, fun fault => fault?_checkClauses_of_read known read value⟩
  · intro name carried
    obtain ⟨clause, first, -⟩ := (fault?_checkClauses_of_read known read value).1 carried
    cases first.flawed
  · intro name carried
    obtain ⟨clause, first, -⟩ := (fault?_checkClauses_of_read known read value).1 carried
    cases first.flawed

end Contents

open scoped StandIn

/-- A rule that is entered later, or turned away, does not change what is wrong with a bound. -/
theorem read_bound_fault_on_contents :
    Rulebook.standard.rules ⊆ Rule.standard ++ Rule.extra ∧
    Definition.read .standard "required; min: ten " =
      .ok ⟨[⟨"required", none⟩, ⟨"min", some "ten"⟩], by decide⟩ ∧
    ((standard.attemptAll [Rule.oneOf, { Rule.required with name := "min" }]).checkClauses none
      [⟨"required", none⟩, ⟨"min", some "ten"⟩]).fault? = some (.invalidNumber "min" "ten") ∧
    ∃ clause,
      First Clause.Illegible [⟨"required", none⟩, ⟨"min", some "ten"⟩] clause (.invalidNumber "min" "ten") ∧
      ((standard.attemptAll [Rule.oneOf, { Rule.required with name := "min" }]).checkClauses none
        [⟨"required", none⟩, ⟨"min", some "ten"⟩]).failed = [clause] := by
  have known : standard.rules ⊆ Rule.standard ++ Rule.extra := List.subset_append_left _ _
  have read : Definition.read .standard "required; min: ten " =
      .ok ⟨[⟨"required", none⟩, ⟨"min", some "ten"⟩], by decide⟩ := by
    decide +kernel
  obtain ⟨-, -, faults⟩ := read_clauses_fault_on_contents .standard known _ _ read
    [Rule.oneOf, { Rule.required with name := "min" }] none
  have carried : ((standard.attemptAll [Rule.oneOf, { Rule.required with name := "min" }]).checkClauses none
      [⟨"required", none⟩, ⟨"min", some "ten"⟩]).fault? = some (.invalidNumber "min" "ten") := by
    decide +kernel
  exact ⟨known, read, carried, (faults _).1 carried⟩

end Rulebook

end FormRules
