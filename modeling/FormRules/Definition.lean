/-
This file reads definitions. A definition is a row of segments with semicolons between them, and a segment
is the name of a rule, which a colon may set off from an expectation. The leftmost segment that is not
well formed decides the error.
-/

import FormRules.ClauseSet
import FormRules.Rulebook
import FormRules.Text.Pieces

namespace FormRules

/-- Why a text is not a definition. -/
inductive DefinitionError where
  | malformed (segment : String)
  | unknownRule (rule : String)
  | missingExpectation (rule : String)
  deriving DecidableEq, Repr

def DefinitionError.message : DefinitionError → String
  | .malformed segment => "Rule definition '" ++ segment ++ "' is invalid: missing rule name"
  | .unknownRule rule => "Unknown rule '" ++ rule ++ "'"
  | .missingExpectation rule =>
      "Rule '" ++ rule ++ "' requires an expectation (e.g. '" ++ rule ++ ":<value>')"

/-- The message of an error when no attribute is named. -/
def DefinitionError.outerMessage (error : DefinitionError) : String :=
  "Rule definition error: " ++ error.message

namespace Definition

/-- A segment as it is written: trimmed name and expectation on both sides of the first colon. -/
def clauseOf (segment : List Char) : Clause :=
  let (name, expectation) := Text.cutAtFirst ':' segment
  { name := String.ofList (Text.trimmed name)
    expectation := expectation.map fun text => String.ofList (Text.trimmed text) }

/-- Reads one segment, in which a semicolon has no meaning. -/
def readSegment (book : Rulebook) (segment : List Char) : Except DefinitionError Clause :=
  let segment := Text.trimmed segment
  let clause := clauseOf segment
  if clause.name = "" then .error (.malformed (String.ofList segment))
  else
    match book.find? clause.name with
    | none => .error (.unknownRule clause.name)
    | some rule =>
        if rule.needsExpectation && (Text.nonBlank? clause.expectation).isNone then
          .error (.missingExpectation clause.name)
        else .ok clause

/-- The segments of a definition: its pieces between semicolons, trimmed and without blank ones. -/
def segments (definition : String) : List (List Char) :=
  ((Text.pieces ';' definition.toList).map Text.trimmed).filter fun segment => !segment.isEmpty

/-- Reads segments in order and inserts their clauses. -/
def readSegments (book : Rulebook) (set : ClauseSet) :
    List (List Char) → Except DefinitionError ClauseSet
  | [] => .ok set
  | segment :: rest => do
      let clause ← readSegment book segment
      readSegments book (set.insert clause) rest

/-- Reads a definition. A blank one has no clauses. -/
def read (book : Rulebook) (definition : String) : Except DefinitionError ClauseSet :=
  readSegments book ClauseSet.empty (segments definition)

end Definition

end FormRules
