/-
This file follows a book while rules are entered. A rule whose name is taken is turned away and changes
nothing, so a name keeps the rule that it was given first.
-/

import FormRules.Proofs.Checking

namespace FormRules.Rulebook

/-- The book after an attempt to enter a rule. -/
def attempt (book : Rulebook) (rule : Rule) : Rulebook :=
  match book.register rule with
  | .ok grown => grown
  | .error _ => book

/-- The book after attempts to enter rules in order, of which any may fail. -/
def attemptAll (book : Rulebook) (rules : List Rule) : Rulebook :=
  rules.foldl attempt book

variable {book : Rulebook} {name : String} {rule : Rule} {value : Option String}

/-- An attempt gives its name to the rule unless the name has one. -/
theorem find?_attempt (book : Rulebook) (entered : Rule) (name : String) :
    (book.attempt entered).find? name = (book.find? name).or ([entered].find? fun rule => rule.name == name) := by
  unfold attempt register
  by_cases taken : entered.name ∈ book.rules.map Rule.name
  · rw [dif_pos taken]
    show book.find? name = _
    cases found : book.find? name with
    | some rule => rfl
    | none =>
        have different : entered.name ≠ name := by
          intro same
          exact find?_eq_none.1 found (same ▸ taken)
        simp [different]
  · rw [dif_neg taken]
    exact List.find?_append

/-- After any attempts a name has the rule that it had, or else the first one that was to be entered. -/
theorem find?_attemptAll (book : Rulebook) (rules : List Rule) (name : String) :
    (book.attemptAll rules).find? name = (book.find? name).or (rules.find? fun rule => rule.name == name) := by
  induction rules generalizing book with
  | nil => exact Option.or_none.symm
  | cons entered rest inductionHypothesis =>
      show ((book.attempt entered).attemptAll rest).find? name = _
      rw [inductionHypothesis, find?_attempt, Option.or_assoc, ← List.find?_append]
      rfl

theorem find?_attemptAll_of_find? (found : book.find? name = some rule) (rules : List Rule) :
    (book.attemptAll rules).find? name = some rule := by
  rw [find?_attemptAll, found]
  rfl

/-- A clause whose rule the book has is applied as before. -/
theorem apply_attemptAll {clause : Clause} (found : book.find? clause.name = some rule)
    (rules : List Rule) :
    (book.attemptAll rules).apply value clause = book.apply value clause := by
  simp only [apply, found, find?_attemptAll_of_find? found]

theorem checkClauses_attemptAll {clauses : List Clause}
    (found : ∀ clause ∈ clauses, ∃ rule, book.find? clause.name = some rule) (rules : List Rule) :
    (book.attemptAll rules).checkClauses value clauses = book.checkClauses value clauses := by
  apply checkClauses_congr
  intro clause member
  obtain ⟨rule, present⟩ := found clause member
  exact apply_attemptAll present rules

end FormRules.Rulebook
