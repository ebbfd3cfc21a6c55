/-
This file holds JSON values as they are written. Numbers keep their spelling, and objects keep repeated
names, because what they mean is up to whoever reads them.
-/

namespace FormRules

/-- A JSON value. A string that holds half of a surrogate pair has no text. -/
inductive Json where
  | null
  | bool (value : Bool)
  | number (spelling : String)
  | string (text : Option String)
  | array (items : List Json)
  | object (members : List (Option String × Json))

namespace Json

def ofText (text : String) : Json := .string (some text)

/-- An object with names that are texts. -/
def ofMembers (members : List (String × Json)) : Json :=
  .object (members.map fun member => (some member.1, member.2))

def ofOption {α : Type} (toJson : α → Json) : Option α → Json
  | none => .null
  | some value => toJson value

def ofNat (n : Nat) : Json := .number (String.ofList (Nat.toDigits 10 n))

def text? : Json → Option String
  | .string text => text
  | _ => none

def bool? : Json → Option Bool
  | .bool value => some value
  | _ => none

/-- Reads a value that may be null. -/
def option? {α : Type} (ofJson? : Json → Option α) : Json → Option (Option α)
  | .null => some none
  | json => (ofJson? json).map some

end Json

end FormRules
