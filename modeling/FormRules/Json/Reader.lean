/-
This file builds JSON values from tokens. The reader takes one token at a time and keeps a stack of the
arrays and objects that are still open.
-/

import FormRules.Json.Token
import FormRules.Json.Value

namespace FormRules.Json

/-- An open array or object with what was read of it, last first. An object also holds the name of the
member whose value is read. -/
inductive Frame where
  | array (items : List Json)
  | object (members : List (Option String × Json)) (name : Option String)

/-- What the reader is waiting for. -/
inductive Mode where
  | value
  | firstItem
  | firstName
  | name (members : List (Option String × Json))
  | colon (members : List (Option String × Json)) (name : Option String)
  | after (value : Json)

/-- What a token stands for alone. -/
def Token.value? : Token → Option Json
  | .null => some .null
  | .bool value => some (.bool value)
  | .number spelling => some (.number spelling)
  | .string text => some (.string text)
  | _ => none

/-- Where a value may come next, the mode and the stack after a token that begins one. -/
def beginValue (stack : List Frame) (token : Token) : Option (Mode × List Frame) :=
  match token with
  | .openArray => some (.firstItem, stack)
  | .openObject => some (.firstName, stack)
  | token => token.value?.map fun value => (.after value, stack)

/-- The mode and the stack after one more token. -/
def readStep (mode : Mode) (stack : List Frame) (token : Token) : Option (Mode × List Frame) :=
  match mode with
  | .value => beginValue stack token
  | .firstItem =>
      if token = .closeArray then some (.after (.array []), stack)
      else beginValue (.array [] :: stack) token
  | .firstName =>
      match token with
      | .closeObject => some (.after (.object []), stack)
      | .string name => some (.colon [] name, stack)
      | _ => none
  | .name members =>
      match token with
      | .string name => some (.colon members name, stack)
      | _ => none
  | .colon members name =>
      if token = .colon then some (.value, .object members name :: stack) else none
  | .after value =>
      match stack, token with
      | .array items :: stack, .comma => some (.value, .array (value :: items) :: stack)
      | .array items :: stack, .closeArray => some (.after (.array (value :: items).reverse), stack)
      | .object members name :: stack, .comma => some (.name ((name, value) :: members), stack)
      | .object members name :: stack, .closeObject =>
          some (.after (.object ((name, value) :: members).reverse), stack)
      | _, _ => none

/-- Reads all tokens, after which one value has to be complete. -/
def readTokens (mode : Mode) (stack : List Frame) : List Token → Option Json
  | [] =>
      match mode, stack with
      | .after value, [] => some value
      | _, _ => none
  | token :: rest =>
      match readStep mode stack token with
      | some (mode, stack) => readTokens mode stack rest
      | none => none

/-- The value that a text spells. -/
def read? (text : String) : Option Json :=
  (tokens text.toList).bind (readTokens .value [])

end FormRules.Json
