/-
This file holds the command that checks a file of definitions, and then a file of values against them. A run
asks for the files that it reads, so that it can be told which ones it opens.
-/

import FormRules.Directory
import FormRules.Json.Decoding
import FormRules.Json.Diagnostics

namespace FormRules.Command

/-- What a run leaves behind. -/
structure Outcome where
  exit : Nat
  stdout : String
  stderr : String
  deriving DecidableEq, Repr

/-- What stops a run. -/
inductive Failure where
  | io (error : ReadError)
  | json (text : String)
  | form (error : FormError)
  | definition (error : DefinitionError)
  deriving DecidableEq, Repr

def Failure.message : Failure → String
  | .io error => "I/O error: " ++ error.message
  | .json text => "JSON error: " ++ text
  | .form error => error.message
  | .definition error => error.outerMessage

/-- How the command is called under the name of a program. -/
def usage (program : String) : String :=
  "Usage: " ++ program ++ " <definitions.json> [values.json]\n\nExamples:\n  "
    ++ program ++ " definitions.json\n  " ++ program ++ " definitions.json values.json\n"

/-- The texts by name that a file holds. -/
def load [Json.Diagnostics] (contents : Contents) : Except Failure (NameMap String) :=
  match contents.text with
  | .error error => .error (.io error)
  | .ok text =>
      match Form.read? text with
      | some map => .ok map
      | none => .error (.json (Json.Diagnostics.diagnosis text))

def describeBound : Option Double → String
  | none => "-"
  | some bound => Number.Style.report.write bound

def describeHints (hints : Hints) : String :=
  "input=" ++ hints.control.name
    ++ " required=" ++ (if hints.required then "true" else "false")
    ++ " min=" ++ describeBound hints.min
    ++ " max=" ++ describeBound hints.max
    ++ " minLength=" ++ describeBound hints.minLength
    ++ " maxLength=" ++ describeBound hints.maxLength
    ++ (match hints.pattern with
      | some text => " pattern=" ++ text
      | none => "")

/-- The lines for one field: its clauses, and its hints if there are any. -/
def describeField (field : String) (set : ClauseSet) (hints : Option Hints) : String :=
  "  ✓ " ++ field ++ ": " ++ Clause.displayAll set.clauses ++ "\n"
    ++ (match hints with
      | some hints => "      hints: " ++ describeHints hints ++ "\n"
      | none => "")

/-- The lines for all fields, up to one whose definition cannot be read. -/
def describeFields (book : Rulebook) (hints : NameMap Hints) :
    List (String × String) → String × Except Failure Unit
  | [] => ("", .ok ())
  | (field, definition) :: rest =>
      match Definition.read book definition with
      | .error error => ("", .error (.definition error))
      | .ok set =>
          let (lines, result) := describeFields book hints rest
          (describeField field set (hints.get? field) ++ lines, result)

section Parts

variable [Json.Diagnostics]

/-- The part of a run that checks definitions: what it prints, and the form that it found. -/
def checkDefinitions (book : Rulebook) (path : String) (contents : Contents) :
    String × Except Failure Form :=
  let header := "Checking attribute definitions: " ++ path ++ "\n\n"
  match load contents with
  | .error failure => (header, .error failure)
  | .ok form =>
      if form.entries.isEmpty then (header ++ "  (no attributes defined)\n", .ok form)
      else
        match Form.hints book form with
        | .error error => (header, .error (.form error))
        | .ok hints =>
            let (lines, result) := describeFields book hints form.entries
            (header ++ lines, result.map fun _ => form)

/-- The line for the value of a field. -/
def describeVerdict (field : String) (verdict : Verdict) : String :=
  if verdict.isValid then "  ✓ " ++ field ++ "\n"
  else
    match verdict.fault? with
    | some fault => "  ❌ " ++ field ++ ": misconfigured rule (" ++ fault.message ++ ")\n"
    | none => "  ❌ " ++ field ++ ": " ++ verdict.summary ++ "\n"

/-- The part of a run that checks values: what it prints, and whether all of them passed. -/
def checkValues (book : Rulebook) (form : Form) (path : String) (contents : Contents) :
    String × Except Failure Bool :=
  let header := "\nValidating values: " ++ path ++ "\n"
  match load contents with
  | .error failure => (header, .error failure)
  | .ok values =>
      match Form.validate book form values with
      | .error error => (header, .error (.form error))
      | .ok report =>
          let lines := report.entries.map fun entry => describeVerdict entry.1 entry.2
          (header ++ String.join lines, .ok (Report.isValid report))

end Parts

def failed (stdout : String) (failure : Failure) : Outcome :=
  ⟨1, stdout, "❌ " ++ failure.message ++ "\n"⟩

/-- A run asks for the contents of one file after the other, until it ends. -/
inductive Session where
  | done (outcome : Outcome)
  | opening (path : String) (resume : Contents → Session)

namespace Session

/-- What a session leaves behind if the files have the given contents. -/
def outcome (read : FileReader) : Session → Outcome
  | .done outcome => outcome
  | .opening path resume => (resume (read path)).outcome read

/-- The paths of the files that a session opens, in order. -/
def opened (read : FileReader) : Session → List String
  | .done _ => []
  | .opening path resume => path :: (resume (read path)).opened read

end Session

variable [Pattern.Engine] [Json.Diagnostics]

/-- Checks definitions and goes on if they pass, with what was printed and the form that was found. -/
def withDefinitions (path : String) (next : String → Form → Session) : Session :=
  .opening path fun contents =>
    match checkDefinitions .standard path contents with
    | (stdout, .error failure) => .done (failed stdout failure)
    | (stdout, .ok form) => next stdout form

/-- Checks values after `stdout` was printed. -/
def withValues (path stdout : String) (form : Form) : Session :=
  .opening path fun contents =>
    match checkValues .standard form path contents with
    | (lines, .error failure) => .done (failed (stdout ++ lines) failure)
    | (lines, .ok passed) => .done ⟨if passed then 0 else 1, stdout ++ lines, ""⟩

/-- The command on its arguments, of which the first one is the name of the program. The second one names the
definitions, the third one, if given, the values. -/
def session : List String → Session
  | [_, definitions] => withDefinitions definitions fun stdout _ => .done ⟨0, stdout, ""⟩
  | [_, definitions, values] => withDefinitions definitions (withValues values)
  | arguments => .done ⟨1, "", usage (arguments.head?.getD "rule-check")⟩

/-- Runs the command on files with the given contents. -/
def run (read : FileReader) (arguments : List String) : Outcome :=
  (session arguments).outcome read

end FormRules.Command
