/-
This file holds the outcome of checking a value against clauses.
-/

import FormRules.Clause
import FormRules.Fault

namespace FormRules

/-- Either every clause was checked and some of them failed, or one of them is misconfigured. -/
inductive Verdict where
  | checked (failed : List Clause)
  | misconfigured (clause : Clause) (fault : Fault)
  deriving DecidableEq, Repr

namespace Verdict

def passed : Verdict := .checked []

/-- A misconfigured clause counts as the only one that failed. -/
def failed : Verdict → List Clause
  | .checked clauses => clauses
  | .misconfigured clause _ => [clause]

def fault? : Verdict → Option Fault
  | .checked _ => none
  | .misconfigured _ fault => some fault

def isValid : Verdict → Bool
  | .checked clauses => clauses.isEmpty
  | .misconfigured .. => false

def isMisconfigured (verdict : Verdict) : Bool :=
  verdict.fault?.isSome

/-- Whether a clause of this name failed. -/
def hasFailed (verdict : Verdict) (name : String) : Bool :=
  verdict.failed.any fun clause => clause.name == name

/-- The failed clauses as one text. -/
def summary (verdict : Verdict) : String :=
  Clause.displayAll verdict.failed

theorem isValid_iff {verdict : Verdict} : verdict.isValid = true ↔ verdict.failed = [] := by
  cases verdict <;> simp [isValid, failed]

theorem isValid_eq_false_of_isMisconfigured {verdict : Verdict}
    (misconfigured : verdict.isMisconfigured = true) : verdict.isValid = false := by
  cases verdict <;> simp_all [isMisconfigured, fault?, isValid]

end Verdict

end FormRules
