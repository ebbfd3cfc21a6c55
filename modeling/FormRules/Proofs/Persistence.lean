/-
This file shows that entering rules into a book keeps the answers that the book gave before. What it took for
an unknown rule may turn out otherwise, and nothing else.
-/

import FormRules.Proofs.Growth
import FormRules.Rule.Extra
import FormRules.StandIn

namespace FormRules

variable {α β ε : Type}

/-- The late outcome is the early one, unless the early one is an error that may pass. -/
def Lasts (passing : ε → Prop) (early late : Except ε α) : Prop :=
  late = early ∨ ∃ error, early = .error error ∧ passing error

namespace Lasts

variable {passing : ε → Prop}

theorem refl (outcome : Except ε α) : Lasts passing outcome outcome :=
  .inl rfl

/-- Steps that last make a run that lasts. -/
theorem bind {early late : Except ε α} {f g : α → Except ε β} (first : Lasts passing early late)
    (rest : ∀ result, Lasts passing (f result) (g result)) : Lasts passing (early >>= f) (late >>= g) := by
  rcases first with rfl | ⟨error, rfl, passes⟩
  · cases late with
    | error error => exact .inl rfl
    | ok result => exact rest result
  · exact .inr ⟨error, rfl, passes⟩

theorem eq_of_settled {early late : Except ε α} (lasts : Lasts passing early late)
    (settled : ∀ error, passing error → early ≠ .error error) : late = early := by
  rcases lasts with same | ⟨error, failed, passes⟩
  · exact same
  · exact absurd failed (settled error passes)

end Lasts

/-- A definition names a rule that is not in the book. -/
def DefinitionError.OfUnknownRule (error : DefinitionError) : Prop :=
  ∃ name, error = .unknownRule name

/-- A clause names a rule that is not in the book. -/
def Fault.OfUnknownRule (fault : Fault) : Prop :=
  ∃ name, fault = .unknownRule name

variable {book : Rulebook}

namespace Definition

theorem readSegment_lasts (entered : List Rule) (segment : List Char) :
    Lasts DefinitionError.OfUnknownRule (readSegment book segment)
      (readSegment (book.attemptAll entered) segment) := by
  simp only [readSegment]
  split
  · exact .refl _
  · cases found : book.find? (clauseOf (Text.trimmed segment)).name with
    | none => exact .inr ⟨_, rfl, _, rfl⟩
    | some rule =>
        rw [Rulebook.find?_attemptAll_of_find? found]
        exact .refl _

theorem readSegments_lasts (entered : List Rule) (set : ClauseSet) (segments : List (List Char)) :
    Lasts DefinitionError.OfUnknownRule (readSegments book set segments)
      (readSegments (book.attemptAll entered) set segments) := by
  induction segments generalizing set with
  | nil => exact .refl _
  | cons segment rest inductionHypothesis =>
      apply (readSegment_lasts entered segment).bind
      intro clause
      exact inductionHypothesis (set.insert clause)

theorem read_lasts (entered : List Rule) (definition : String) :
    Lasts DefinitionError.OfUnknownRule (read book definition)
      (read (book.attemptAll entered) definition) :=
  readSegments_lasts entered ClauseSet.empty (segments definition)

end Definition

namespace Rulebook

theorem apply_lasts (entered : List Rule) (value : Option String) (clause : Clause) :
    Lasts Fault.OfUnknownRule (book.apply value clause)
      ((book.attemptAll entered).apply value clause) := by
  cases found : book.find? clause.name with
  | none =>
      have unknown : book.apply value clause = .error (.unknownRule clause.name) := by
        simp only [apply, found]
      exact .inr ⟨_, unknown, _, rfl⟩
  | some rule => exact .inl (apply_attemptAll found entered)

theorem constraint?_lasts (entered : List Rule) (clause : Clause) :
    Lasts Fault.OfUnknownRule (book.constraint? clause)
      ((book.attemptAll entered).constraint? clause) := by
  simp only [constraint?]
  cases found : book.find? clause.name with
  | none => exact .inr ⟨_, rfl, _, rfl⟩
  | some rule =>
      rw [find?_attemptAll_of_find? found]
      exact .refl _

theorem constraints_lasts (entered : List Rule) (clauses : List Clause) :
    Lasts Fault.OfUnknownRule (book.constraints clauses)
      ((book.attemptAll entered).constraints clauses) := by
  induction clauses with
  | nil => exact .refl _
  | cons clause rest inductionHypothesis =>
      apply (constraint?_lasts entered clause).bind
      intro constraint
      apply inductionHypothesis.bind
      intro others
      exact .refl _

/-- A check that meets no unknown rule takes the same course in the grown book, up to the clause at which it
ends. -/
theorem checkFrom_attemptAll (entered : List Rule) {value : Option String} {failed clauses : List Clause}
    (settled : ∀ name, (book.checkFrom value failed clauses).fault? ≠ some (.unknownRule name)) :
    (book.attemptAll entered).checkFrom value failed clauses = book.checkFrom value failed clauses := by
  induction clauses generalizing failed with
  | nil => rfl
  | cons clause rest inductionHypothesis =>
      have lasts : Lasts Fault.OfUnknownRule (book.apply value clause)
          ((book.attemptAll entered).apply value clause) := apply_lasts entered value clause
      rcases lasts with same | ⟨_, unknown, name, rfl⟩
      · rw [checkFrom] at settled
        rw [checkFrom, checkFrom, same]
        cases applied : book.apply value clause with
        | error fault => rfl
        | ok passes =>
            rw [applied] at settled
            cases passes with
            | true => exact inductionHypothesis settled
            | false => exact inductionHypothesis settled
      · exfalso
        apply settled name
        rw [checkFrom, unknown]
        rfl

/-- A book that grows keeps its answers. After any attempts to enter rules, whether they succeeded or not, a
definition is read as before, a value is checked as before and clauses are described as before, errors
included, unless the answer was that a rule is unknown. -/
theorem growth_keeps_answers (book : Rulebook) (entered : List Rule) :
    (∀ definition, (∀ name, Definition.read book definition ≠ .error (.unknownRule name)) →
      Definition.read (book.attemptAll entered) definition = Definition.read book definition) ∧
    (∀ value clauses, (∀ name, (book.checkClauses value clauses).fault? ≠ some (.unknownRule name)) →
      (book.attemptAll entered).checkClauses value clauses = book.checkClauses value clauses) ∧
    (∀ clauses, (∀ name, book.constraints clauses ≠ .error (.unknownRule name)) →
      (book.attemptAll entered).constraints clauses = book.constraints clauses) := by
  refine ⟨?_, ?_, ?_⟩
  · intro definition settled
    apply (Definition.read_lasts entered definition).eq_of_settled
    rintro error ⟨name, rfl⟩
    exact settled name
  · intro value clauses settled
    exact checkFrom_attemptAll entered settled
  · intro clauses settled
    apply (constraints_lasts entered clauses).eq_of_settled
    rintro error ⟨name, rfl⟩
    exact settled name

open scoped StandIn

/-- An expectation that is missing, or no number, stays the error that it was when the rule of a later segment
or clause is entered, along with another rule of the name `min` that is turned away. -/
theorem growth_keeps_earlier_errors :
    (Definition.read .standard "required; min:; oneOf:a" = .error (.missingExpectation "min") ∧
      Definition.read (standard.attemptAll [Rule.oneOf, { Rule.required with name := "min" }])
        "required; min:; oneOf:a" = .error (.missingExpectation "min")) ∧
    (standard.checkClauses none [⟨"min", some "x"⟩, ⟨"oneOf", some "a"⟩] =
        .misconfigured ⟨"min", some "x"⟩ (.invalidNumber "min" "x") ∧
      (standard.attemptAll [Rule.oneOf, { Rule.required with name := "min" }]).checkClauses none
          [⟨"min", some "x"⟩, ⟨"oneOf", some "a"⟩] =
        .misconfigured ⟨"min", some "x"⟩ (.invalidNumber "min" "x")) ∧
    (standard.constraints [⟨"min", some "x"⟩, ⟨"oneOf", some "a"⟩] = .error (.invalidNumber "min" "x") ∧
      (standard.attemptAll [Rule.oneOf, { Rule.required with name := "min" }]).constraints
        [⟨"min", some "x"⟩, ⟨"oneOf", some "a"⟩] = .error (.invalidNumber "min" "x")) := by
  obtain ⟨reads, checks, describes⟩ :=
    growth_keeps_answers standard [Rule.oneOf, { Rule.required with name := "min" }]
  have read : Definition.read .standard "required; min:; oneOf:a" = .error (.missingExpectation "min") := by
    decide +kernel
  have checked : standard.checkClauses none [⟨"min", some "x"⟩, ⟨"oneOf", some "a"⟩] =
      .misconfigured ⟨"min", some "x"⟩ (.invalidNumber "min" "x") := by
    decide +kernel
  have described : standard.constraints [⟨"min", some "x"⟩, ⟨"oneOf", some "a"⟩] =
      .error (.invalidNumber "min" "x") := by
    decide +kernel
  refine ⟨⟨read, ?_⟩, ⟨checked, ?_⟩, described, ?_⟩
  · rw [reads _ (by simp [read]), read]
  · rw [checks _ _ (by simp [checked, Verdict.fault?]), checked]
  · rw [describes _ (by simp [described]), described]

end Rulebook

end FormRules
