/-
This file divides a JSON text into tokens. Space, tab, newline and carriage return separate them.
-/

import FormRules.Text.Digit

namespace FormRules.Json

inductive Token where
  | null
  | bool (value : Bool)
  | number (spelling : String)
  | string (text : Option String)
  | openArray
  | closeArray
  | openObject
  | closeObject
  | colon
  | comma
  deriving DecidableEq, Repr

/-- The digits at the front of a text, as characters, and the rest. -/
def spanDigits (text : List Char) : List Char × List Char :=
  text.span fun c => (Text.decimalDigit? c).isSome

/-- Reads a fraction: a point and at least one digit, or nothing. -/
def readFraction : List Char → Option (List Char × List Char)
  | '.' :: rest =>
      match spanDigits rest with
      | ([], _) => none
      | (digits, after) => some ('.' :: digits, after)
  | text => some ([], text)

/-- Reads an exponent: its mark, perhaps a sign, and at least one digit, or nothing. -/
def readExponent : List Char → Option (List Char × List Char)
  | [] => some ([], [])
  | c :: rest =>
      if c = 'e' ∨ c = 'E' then
        let (sign, rest) :=
          match rest with
          | '+' :: rest => (['+'], rest)
          | '-' :: rest => (['-'], rest)
          | rest => ([], rest)
        match spanDigits rest with
        | ([], _) => none
        | (digits, after) => some (c :: (sign ++ digits), after)
      else some ([], c :: rest)

/-- Reads the whole part of a number, in which a zero stands alone. -/
def readWhole : List Char → Option (List Char × List Char)
  | '0' :: rest => some (['0'], rest)
  | text =>
      match spanDigits text with
      | ([], _) => none
      | (digits, after) => some (digits, after)

/-- Reads the spelling of a number. -/
def readNumber (text : List Char) : Option (List Char × List Char) := do
  let (sign, rest) :=
    match text with
    | '-' :: rest => (['-'], rest)
    | rest => ([], rest)
  let (whole, rest) ← readWhole rest
  let (fraction, rest) ← readFraction rest
  let (exponent, rest) ← readExponent rest
  some (sign ++ whole ++ fraction ++ exponent, rest)

/-- The character of an escape with one letter. -/
def simpleEscape? : Char → Option Char
  | '"' => some '"'
  | '\\' => some '\\'
  | '/' => some '/'
  | 'b' => some '\x08'
  | 'f' => some '\x0c'
  | 'n' => some '\n'
  | 'r' => some '\r'
  | 't' => some '\t'
  | _ => none

/-- Reads the codes in a string, after its quotation mark and up to the closing one. Escapes may write the
halves of a surrogate pair. -/
def readCodes : List Char → Option (List Nat × List Char)
  | [] => none
  | '"' :: rest => some ([], rest)
  | '\\' :: 'u' :: a :: b :: c :: d :: rest =>
      match Text.hexNumber? [a, b, c, d], readCodes rest with
      | some code, some (codes, after) => some (code :: codes, after)
      | _, _ => none
  | '\\' :: letter :: rest =>
      match simpleEscape? letter, readCodes rest with
      | some c, some (codes, after) => some (c.toNat :: codes, after)
      | _, _ => none
  | c :: rest =>
      if c = '\\' ∨ c.toNat < 0x20 then none
      else (readCodes rest).map fun (codes, after) => (c.toNat :: codes, after)

def isHighSurrogate (code : Nat) : Bool := 0xd800 ≤ code && code < 0xdc00

def isLowSurrogate (code : Nat) : Bool := 0xdc00 ≤ code && code < 0xe000

/-- The characters of codes, where surrogates have to stand in pairs. -/
def charsOfCodes : List Nat → Option (List Char)
  | [] => some []
  | [code] =>
      if isHighSurrogate code || isLowSurrogate code then none else some [Char.ofNat code]
  | code :: next :: rest =>
      if isHighSurrogate code then
        if isLowSurrogate next then
          (charsOfCodes rest).map
            (Char.ofNat (0x10000 + (code - 0xd800) * 0x400 + (next - 0xdc00)) :: ·)
        else none
      else if isLowSurrogate code then none
      else (charsOfCodes (next :: rest)).map (Char.ofNat code :: ·)

/-- The word that stands for a value, and the rest of the text. -/
def readWord : List Char → Option (Token × List Char)
  | 'n' :: 'u' :: 'l' :: 'l' :: rest => some (.null, rest)
  | 't' :: 'r' :: 'u' :: 'e' :: rest => some (.bool true, rest)
  | 'f' :: 'a' :: 'l' :: 's' :: 'e' :: rest => some (.bool false, rest)
  | _ => none

/-- Reads a token, which begins with the given character. -/
def readToken (c : Char) (rest : List Char) : Option (Token × List Char) :=
  match c with
  | '[' => some (.openArray, rest)
  | ']' => some (.closeArray, rest)
  | '\x7b' => some (.openObject, rest)
  | '\x7d' => some (.closeObject, rest)
  | ':' => some (.colon, rest)
  | ',' => some (.comma, rest)
  | '"' =>
      (readCodes rest).map fun (codes, after) =>
        (.string ((charsOfCodes codes).map String.ofList), after)
  | c =>
      if c = '-' || (Text.decimalDigit? c).isSome then
        (readNumber (c :: rest)).map fun (spelling, after) =>
          (.number (String.ofList spelling), after)
      else readWord (c :: rest)

def isSeparator (c : Char) : Bool :=
  c == ' ' || c == '\t' || c == '\n' || c == '\r'

/-- The tokens of a text, of which every one takes a character at least. -/
def tokensFrom : Nat → List Char → Option (List Token)
  | _, [] => some []
  | 0, _ :: _ => none
  | steps + 1, c :: rest =>
      if isSeparator c then tokensFrom steps rest
      else
        match readToken c rest with
        | some (token, after) => (tokensFrom steps after).map (token :: ·)
        | none => none

def tokens (text : List Char) : Option (List Token) :=
  tokensFrom text.length text

end FormRules.Json
