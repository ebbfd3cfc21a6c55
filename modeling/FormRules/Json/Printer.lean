/-
This file writes JSON values without any space. Quotation marks, backslashes and control characters are
escaped, all other characters stand for themselves.
-/

import FormRules.Json.Value

namespace FormRules.Json

/-- A control character by its code, with the letters of hexadecimal digits in lower case. -/
def codeEscape (c : Char) : List Char :=
  ['\\', 'u', '0', '0', Nat.digitChar (c.toNat / 16), Nat.digitChar (c.toNat % 16)]

/-- How a character is written in a string. -/
def escape (c : Char) : List Char :=
  match c with
  | '"' => ['\\', '"']
  | '\\' => ['\\', '\\']
  | '\x08' => ['\\', 'b']
  | '\x0c' => ['\\', 'f']
  | '\n' => ['\\', 'n']
  | '\r' => ['\\', 'r']
  | '\t' => ['\\', 't']
  | c => if c.toNat < 0x20 then codeEscape c else [c]

/-- A text between quotation marks. -/
def quote (text : String) : List Char :=
  '"' :: (text.toList.flatMap escape ++ ['"'])

mutual

/-- The characters of a value. A string without a text is written as null. -/
def chars : Json → List Char
  | .null | .string none => ['n', 'u', 'l', 'l']
  | .bool true => ['t', 'r', 'u', 'e']
  | .bool false => ['f', 'a', 'l', 's', 'e']
  | .number spelling => spelling.toList
  | .string (some text) => quote text
  | .array [] => ['[', ']']
  | .array (item :: items) => '[' :: (item.chars ++ itemChars items ++ [']'])
  | .object [] => ['\x7b', '\x7d']
  | .object ((name, value) :: members) =>
      '\x7b' :: (quote (name.getD "") ++ ':' :: (value.chars ++ memberChars members ++ ['\x7d']))

/-- The characters of the items after the first. -/
def itemChars : List Json → List Char
  | [] => []
  | item :: items => ',' :: (item.chars ++ itemChars items)

/-- The characters of the members after the first. -/
def memberChars : List (Option String × Json) → List Char
  | [] => []
  | (name, value) :: members =>
      ',' :: (quote (name.getD "") ++ ':' :: (value.chars ++ memberChars members))

end

/-- The text of a value. -/
def write (json : Json) : String :=
  String.ofList json.chars

end FormRules.Json
