/-
This file applies the rules of a rulebook. A clause that fails does not keep the later ones from being
checked; a clause that is misconfigured ends the check and stands for all.
-/

import FormRules.Definition
import FormRules.Verdict

namespace FormRules.Rulebook

/-- Checks a value against one clause. -/
def apply (book : Rulebook) (value : Option String) (clause : Clause) : Except Fault Bool :=
  match book.find? clause.name with
  | none => .error (.unknownRule clause.name)
  | some rule => rule.check value clause.expectation

/-- Checks a value against clauses in order, after those in `failed`, last first, have failed. -/
def checkFrom (book : Rulebook) (value : Option String) (failed : List Clause) :
    List Clause → Verdict
  | [] => .checked failed.reverse
  | clause :: rest =>
      match book.apply value clause with
      | .ok true => book.checkFrom value failed rest
      | .ok false => book.checkFrom value (clause :: failed) rest
      | .error fault => .misconfigured clause fault

/-- Checks a value against clauses. -/
def checkClauses (book : Rulebook) (value : Option String) (clauses : List Clause) : Verdict :=
  book.checkFrom value [] clauses

/-- Checks a value against a definition; without one there is nothing to fail. -/
def check (book : Rulebook) (value definition : Option String) : Except DefinitionError Verdict :=
  match definition with
  | none => .ok (book.checkClauses value [])
  | some definition => do
      let set ← Definition.read book definition
      return book.checkClauses value set.clauses

/-- What one clause asks for, if its rule describes it. -/
def constraint? (book : Rulebook) (clause : Clause) : Except Fault (Option Constraint) :=
  match book.find? clause.name with
  | none => .error (.unknownRule clause.name)
  | some rule => rule.constraint? clause.expectation

/-- What clauses ask for, in order, as far as it is described. The first misconfigured clause decides the
error. -/
def constraints (book : Rulebook) : List Clause → Except Fault (List Constraint)
  | [] => .ok []
  | clause :: rest => do
      let constraint ← book.constraint? clause
      let others ← book.constraints rest
      return constraint.toList ++ others

end FormRules.Rulebook
