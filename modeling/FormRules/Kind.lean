/-
This file holds the kinds of values that a type names, and which texts are values of a kind.
-/

import FormRules.Number.Binary
import FormRules.Number.Whole
import FormRules.Text.Blank

namespace FormRules

inductive Kind where
  | double
  | float
  | integer
  | boolean
  | string
  deriving DecidableEq, Repr

namespace Kind

def name : Kind → String
  | .double => "double"
  | .float => "float"
  | .integer => "integer"
  | .boolean => "boolean"
  | .string => "string"

/-- All names of the kinds; some kinds have two. -/
def aliases : List (String × Kind) := [
  ("double", .double), ("decimal", .double),
  ("float", .float), ("number", .float),
  ("int", .integer), ("integer", .integer),
  ("boolean", .boolean), ("bool", .boolean),
  ("string", .string), ("str", .string)]

/-- Whether two texts agree but for the case of ASCII letters. -/
def sameButCase (first second : String) : Bool :=
  first.toList.map Char.toLower == second.toList.map Char.toLower

/-- The kind of a name, around which blanks and in which the case of letters have no meaning. -/
def ofName? (name : String) : Option Kind :=
  (aliases.find? fun entry => sameButCase entry.1 (Text.trim name)).map (·.2)

def isNumeric : Kind → Bool
  | .double | .float | .integer => true
  | .boolean | .string => false

/-- Whether the trimmed text is a value of the kind. Only a string may be blank. -/
def accepts (kind : Kind) (value : String) : Bool :=
  let text := Text.trim value
  if text = "" then kind == .string
  else
    match kind with
    | .double => (Binary.read? binary64 text.toList).isSome
    | .float => (Binary.read? binary32 text.toList).isSome
    | .integer => Whole.fits32 text.toList
    | .boolean => sameButCase text "true" || sameButCase text "false"
    | .string => true

end Kind

end FormRules
