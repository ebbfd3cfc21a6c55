/-
This file gives the values of the library their JSON forms.
-/

import FormRules.ClauseSet
import FormRules.Form
import FormRules.Json.Number
import FormRules.Json.Printer

namespace FormRules

open Json (ofText ofMembers ofOption ofDouble)

def Clause.toJson (clause : Clause) : Json :=
  ofMembers
    [("ruleName", ofText clause.name), ("expectation", ofOption ofText clause.expectation)]

def ClauseSet.toJson (set : ClauseSet) : Json :=
  .array (set.clauses.map Clause.toJson)

def Kind.toJson (kind : Kind) : Json :=
  ofText kind.name

def Control.toJson (control : Control) : Json :=
  ofText control.name

/-- The name of what a constraint asks for. -/
def Constraint.label : Constraint → String
  | .required => "required"
  | .type _ => "type"
  | .min _ => "min"
  | .max _ => "max"
  | .minLength _ => "minLength"
  | .maxLength _ => "maxLength"
  | .pattern _ => "pattern"

/-- What a constraint compares with, if it compares with anything. -/
def Constraint.operand : Constraint → Option Json
  | .required => none
  | .type kind => some kind.toJson
  | .min bound | .max bound | .minLength bound | .maxLength bound => some (ofDouble bound)
  | .pattern text => some (ofText text)

def Constraint.toJson (constraint : Constraint) : Json :=
  ofMembers
    (("kind", ofText constraint.label)
      :: constraint.operand.toList.map fun operand => ("expectation", operand))

def Hints.toJson (hints : Hints) : Json :=
  ofMembers
    [("inputType", hints.control.toJson),
      ("required", .bool hints.required),
      ("min", ofOption ofDouble hints.min),
      ("max", ofOption ofDouble hints.max),
      ("minLength", ofOption ofDouble hints.minLength),
      ("maxLength", ofOption ofDouble hints.maxLength),
      ("pattern", ofOption ofText hints.pattern)]

def Form.toJson (form : Form) : Json :=
  ofMembers (form.entries.map fun entry => (entry.1, ofText entry.2))

def Verdict.toJson (verdict : Verdict) : Json :=
  ofMembers
    [("valid", .bool verdict.isValid),
      ("failedRules", .array (verdict.failed.map Clause.toJson)),
      ("exception", ofOption (fun fault => ofText fault.message) verdict.fault?)]

end FormRules
