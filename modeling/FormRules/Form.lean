/-
This file holds forms, which have a definition for each of their fields, and the reports of checking
submitted values against them.
-/

import FormRules.Evaluation
import FormRules.Hints
import FormRules.NameMap

namespace FormRules

/-- The definitions of a form by field, as they were written. -/
abbrev Form := NameMap String

/-- Collects the definitions of a form. -/
structure FormBuilder where
  definitions : Form

namespace FormBuilder

def empty : FormBuilder := ⟨NameMap.empty⟩

/-- Defines a field, in place of what it was defined as before. -/
def field (builder : FormBuilder) (name definition : String) : FormBuilder :=
  ⟨builder.definitions.insert name definition⟩

def build (builder : FormBuilder) : Form := builder.definitions

end FormBuilder

/-- Why a form cannot be used. The first field that is at fault decides. -/
inductive FormError where
  | definition (field : String) (error : DefinitionError)
  | configuration (field : String) (fault : Fault)
  deriving DecidableEq, Repr

def FormError.message : FormError → String
  | .definition field error =>
      "Invalid rule definition for attribute '" ++ field ++ "': " ++ error.message
  | .configuration field fault =>
      "Misconfigured rule for attribute '" ++ field ++ "': " ++ fault.message

/-- What came of checking each field. -/
abbrev Report := NameMap Verdict

namespace Form

/-- Reads the definition of a field. -/
def readFor (book : Rulebook) (field definition : String) : Except FormError ClauseSet :=
  (Definition.read book definition).mapError (.definition field)

/-- Checks the submitted value of a field, which is absent if none was submitted. -/
def checkField (book : Rulebook) (values : NameMap String) (field definition : String) :
    Except FormError Verdict := do
  let set ← readFor book field definition
  return book.checkClauses (values.get? field) set.clauses

/-- Checks submitted values against every field. Values for other names are ignored. -/
def validate (book : Rulebook) (form : Form) (values : NameMap String) : Except FormError Report :=
  NameMap.traverse (checkField book values) form

/-- The hints for the input field of a field. -/
def hintsFor (book : Rulebook) (field definition : String) : Except FormError Hints := do
  let set ← readFor book field definition
  let constraints ← (book.constraints set.clauses).mapError (.configuration field)
  return Hints.ofConstraints constraints

/-- The hints for the input fields of all fields. -/
def hints (book : Rulebook) (form : Form) : Except FormError (NameMap Hints) :=
  NameMap.traverse (hintsFor book) form

/-- Checks that every definition can be read and every expectation interpreted. -/
def verify (book : Rulebook) (form : Form) : Except FormError Unit := do
  let _ ← hints book form

end Form

namespace Report

def isValid (report : Report) : Bool :=
  report.entries.all fun entry => entry.2.isValid

/-- The fields whose values failed. -/
def invalid (report : Report) : List String :=
  (report.entries.filter fun entry => !entry.2.isValid).map (·.1)

/-- The fields that have a misconfigured clause. -/
def misconfigured (report : Report) : List String :=
  (report.entries.filter fun entry => entry.2.isMisconfigured).map (·.1)

/-- What failed, for each field that did. -/
def messages (report : Report) : List (String × String) :=
  (report.entries.filter fun entry => !entry.2.isValid).map fun entry => (entry.1, entry.2.summary)

end Report

end FormRules
