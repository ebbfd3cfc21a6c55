/-
This file holds clauses, the parts of a definition: the name of a rule and what the rule expects.
-/

import FormRules.Text.Blank

namespace FormRules

/-- A rule by its name, with its expectation. An empty expectation differs from an absent one. -/
structure Clause where
  name : String
  expectation : Option String := none
  deriving DecidableEq, Repr

/-- A clause is displayed as `name: expectation`, or by its name alone if it expects nothing but blanks. -/
def Clause.display (clause : Clause) : String :=
  match Text.nonBlank? clause.expectation with
  | some expectation => clause.name ++ ": " ++ expectation
  | none => clause.name

/-- Several clauses are displayed with commas between them. -/
def Clause.displayAll (clauses : List Clause) : String :=
  String.intercalate ", " (clauses.map Clause.display)

end FormRules
