/-
This file shows that the clauses of a definition that can be read are ones that the book can apply, as far
as this can be told without interpreting an expectation.
-/

import FormRules.Proofs.Grammar

namespace FormRules

/-- The book has a rule for the clause, which has the expectation that the rule needs. -/
def Rulebook.Serves (book : Rulebook) (clause : Clause) : Prop :=
  ∃ rule, book.find? clause.name = some rule ∧
    (rule.needsExpectation = true → Text.nonBlank? clause.expectation ≠ none)

namespace Definition

variable {book : Rulebook}

theorem serves_of_read {definition : String} {set : ClauseSet}
    (read : Definition.read book definition = .ok set) : ∀ clause ∈ set.clauses, book.Serves clause := by
  intro clause member
  obtain ⟨segment, -, spelled, -, rule, found, provided⟩ := exists_spells_of_read read member
  refine ⟨rule, found, fun needed blank => ?_⟩
  obtain ⟨present, filled⟩ := provided needed
  rcases (Text.nonBlank?_eq_none_iff (trim_of_spells spelled).2).1 blank with absent | empty
  · exact present absent
  · exact filled empty

end Definition

end FormRules
