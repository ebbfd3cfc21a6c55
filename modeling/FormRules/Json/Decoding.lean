/-
This file reads the values of the library from their JSON forms. Objects may hold members of other names,
which are ignored, but none of the expected names twice. A record may also be written as the array of its
members in order.
-/

import FormRules.ClauseSet
import FormRules.Form
import FormRules.Json.Encoding
import FormRules.Json.Reader

namespace FormRules

namespace Json

/-- The names of an object's members, all of which have to be texts. -/
def namedMembers? (members : List (Option String × Json)) : Option (List (String × Json)) :=
  members.mapM fun (name, value) => name.map (·, value)

/-- The value of a member that may be missing but not repeated. -/
def member? (members : List (String × Json)) (name : String) : Option (Option Json) :=
  match members.filter fun member => member.1 == name with
  | [] => some none
  | [member] => some (some member.2)
  | _ => none

/-- The members of a record, each of which may be missing from an object; an array has at least `least` of
them. -/
def record? (names : List String) (least : Nat) : Json → Option (List (Option Json))
  | .object members => do
      let members ← namedMembers? members
      names.mapM (member? members)
  | .array items =>
      if least ≤ items.length ∧ items.length ≤ names.length then
        some (items.map some ++ List.replicate (names.length - items.length) none)
      else none
  | _ => none

/-- A member that may be missing or null. -/
def optional? {α : Type} (ofJson? : Json → Option α) : Option Json → Option (Option α)
  | none => some none
  | some json => json.option? ofJson?

/-- Whether a value says no more than that it is there: null does, and an empty object if it was read
before its meaning was known. -/
def isUnit (early : Bool) : Json → Bool
  | .null => true
  | .object [] => early
  | _ => false

/-- The choice that is written by its name, alone or as the only member of an object. -/
def choice? {α : Type} (early : Bool) (choices : List (String × α)) (json : Json) : Option α :=
  let named (name : String) := (choices.find? fun choice => choice.1 == name).map (·.2)
  match json with
  | .string (some name) => named name
  | .object [(some name, value)] => if isUnit early value then named name else none
  | _ => none

end Json

open Json (text? record? optional? choice? double? bool? namedMembers? isUnit)

def Clause.ofJson? (json : Json) : Option Clause :=
  match record? ["ruleName", "expectation"] 1 json with
  | some [some name, expectation] => do
      let name ← name.text?
      let expectation ← optional? text? expectation
      some ⟨name, expectation⟩
  | _ => none

/-- A set may be written with repetitions. -/
def ClauseSet.ofJson? : Json → Option ClauseSet
  | .array items => (items.mapM Clause.ofJson?).map ClauseSet.ofList
  | _ => none

def Kind.all : List Kind := [.double, .float, .integer, .boolean, .string]

def Kind.ofJson? (early : Bool) : Json → Option Kind :=
  choice? early (Kind.all.map fun kind => (kind.name, kind))

def Control.all : List Control := [.number, .text]

def Control.ofJson? : Json → Option Control :=
  choice? false (Control.all.map fun control => (control.name, control))

/-- For the label of a constraint, how its operand is read. `early` tells that the operand stood before the
label, which only the name of a kind makes use of. -/
def Constraint.labels : List (String × (Bool → Option Json → Option Constraint)) :=
  let bounded (constraint : Double → Constraint) (_ : Bool) (operand : Option Json) :=
    (operand.bind double?).map constraint
  [("required", fun _ operand =>
      if operand.all (isUnit false) then some .required else none),
    ("type", fun early operand => (operand.bind (Kind.ofJson? early)).map .type),
    ("min", bounded .min),
    ("max", bounded .max),
    ("minLength", bounded .minLength),
    ("maxLength", bounded .maxLength),
    ("pattern", fun _ operand => (operand.bind text?).map .pattern)]

def Constraint.ofParts? (early : Bool) (label : Json) (operand : Option Json) :
    Option Constraint := do
  let reader ← choice? false Constraint.labels label
  reader early operand

/-- The label and the operand may stand in either order. -/
def Constraint.ofJson? : Json → Option Constraint
  | .array [label, operand] => Constraint.ofParts? false label (some operand)
  | .object members => do
      let members ← namedMembers? members
      match members.filter fun member => member.1 == "kind" || member.1 == "expectation" with
      | [("kind", label)] => Constraint.ofParts? false label none
      | [("kind", label), ("expectation", operand)] =>
          Constraint.ofParts? false label (some operand)
      | [("expectation", operand), ("kind", label)] =>
          Constraint.ofParts? true label (some operand)
      | _ => none
  | _ => none

def Hints.ofJson? (json : Json) : Option Hints :=
  let names := ["inputType", "required", "min", "max", "minLength", "maxLength", "pattern"]
  match record? names 7 json with
  | some [some control, some required, min, max, minLength, maxLength, pattern] => do
      let control ← Control.ofJson? control
      let required ← required.bool?
      let min ← optional? double? min
      let max ← optional? double? max
      let minLength ← optional? double? minLength
      let maxLength ← optional? double? maxLength
      let pattern ← optional? text? pattern
      some { control, required, min, max, minLength, maxLength, pattern }
  | _ => none

/-- Texts by name. Of several members of one name the last counts. -/
def NameMap.ofJson? : Json → Option (NameMap String)
  | .object members => do
      let members ← namedMembers? members
      let pairs ← members.mapM fun member => member.2.text?.map fun text => (member.1, text)
      some (NameMap.ofList pairs)
  | _ => none

/-- The form that a JSON text describes. -/
def Form.read? (text : String) : Option Form :=
  (Json.read? text).bind NameMap.ofJson?

end FormRules
