/-
This file summarises constraints as hints for an input field.
-/

import FormRules.Constraint

namespace FormRules

/-- The control that an input field has. -/
inductive Control where
  | number
  | text
  deriving DecidableEq, Repr

def Control.name : Control → String
  | .number => "number"
  | .text => "text"

/-- What an input field may check before a value is submitted. -/
structure Hints where
  control : Control := .text
  required : Bool := false
  min : Option Double := none
  max : Option Double := none
  minLength : Option Double := none
  maxLength : Option Double := none
  pattern : Option String := none
  deriving DecidableEq

namespace Hints

/-- The larger of a bound and what there was before, which is kept among equal ones. -/
def raise (bound : Double) : Option Double → Option Double
  | none => some bound
  | some before => some (if bound ≤ before then before else bound)

/-- The smaller of a bound and what there was before, which is kept among equal ones. -/
def lower (bound : Double) : Option Double → Option Double
  | none => some bound
  | some before => some (if before ≤ bound then before else bound)

/-- Takes one more constraint into account. Of several bounds the strictest counts, and of several patterns
the last. -/
def add (hints : Hints) : Constraint → Hints
  | .required => { hints with required := true }
  | .type kind => if kind.isNumeric then { hints with control := .number } else hints
  | .min bound => { hints with min := raise bound hints.min }
  | .max bound => { hints with max := lower bound hints.max }
  | .minLength bound => { hints with minLength := raise bound hints.minLength }
  | .maxLength bound => { hints with maxLength := lower bound hints.maxLength }
  | .pattern text => { hints with pattern := some text }

/-- The hints that constraints amount to. -/
def ofConstraints (constraints : List Constraint) : Hints :=
  constraints.foldl add {}

end Hints

end FormRules
