/-
This file reads the smallest parts of a pattern: space and comments between them, escapes, and counts of
repetitions. Every reader takes a text and returns what it read together with the rest; `none` means that
the text is not a pattern. In a verbose text, blank characters and comments separate without meaning.
-/

import FormRules.Pattern.Node
import FormRules.Text.Blank
import FormRules.Text.Digit
import FormRules.Text.Pieces

namespace FormRules.Pattern

open Text (isBlank)

/-- Drops blank characters and comments, where a comment may already have begun. -/
def dropSpace (comment : Bool) : List Char → List Char
  | [] => []
  | c :: rest =>
      if comment then dropSpace (c != '\n') rest
      else if isBlank c then dropSpace false rest
      else if c = '#' then dropSpace true rest
      else c :: rest

/-- Drops what has no meaning at the front of the text. -/
def skip (verbose : Bool) (text : List Char) : List Char :=
  if verbose then dropSpace false text else text

theorem length_dropSpace_le (comment : Bool) (text : List Char) :
    (dropSpace comment text).length ≤ text.length := by
  fun_induction dropSpace comment text <;> grind

theorem length_skip_le (verbose : Bool) (text : List Char) :
    (skip verbose text).length ≤ text.length := by
  unfold skip
  split
  · exact length_dropSpace_le false text
  · exact Nat.le_refl _

/-- The characters up to a closing brace, without those that have no meaning. -/
def upToBrace (verbose comment : Bool) : List Char → Option (List Char × List Char)
  | [] => none
  | c :: rest =>
      if comment then upToBrace verbose (c != '\n') rest
      else if verbose && isBlank c then upToBrace verbose false rest
      else if verbose && c == '#' then upToBrace verbose true rest
      else if c = '\x7d' then some ([], rest)
      else (upToBrace verbose false rest).map fun (name, after) => (c :: name, after)

/-- What a backslash and the characters after it mean. -/
inductive Escape where
  | literal (literal : Literal)
  | assertion (kind : Assertion)
  | shorthand (kind : Shorthand) (negated : Bool)
  | property (name : PropertyName) (negated : Bool)

/-- A character with the given code, unless the code is a surrogate or too large. -/
def charOfCode? (code : Nat) : Option Char :=
  if code.isValidChar then some (Char.ofNat code) else none

/-- Reads the given number of hexadecimal digits. -/
def readHexDigits (verbose : Bool) : Nat → List Char → Option (List Nat × List Char)
  | 0, text => some ([], text)
  | count + 1, text =>
      match skip verbose text with
      | [] => none
      | c :: rest => do
          let digit ← Text.hexDigit? c
          let (digits, after) ← readHexDigits verbose count rest
          some (digit :: digits, after)

/-- Reads a character by its code: a fixed number of digits, or any number of them in braces. -/
def readCode (verbose : Bool) (digitCount : Nat) (byteEscape : Bool) (text : List Char) :
    Option (Literal × List Char) := do
  match skip verbose text with
  | '\x7b' :: inside =>
      let (digits, after) ← upToBrace verbose false inside
      if digits.isEmpty then none
      else
        let code ← Text.hexNumber? digits
        let char ← charOfCode? code
        some (⟨char, false⟩, after)
  | other =>
      let (digits, after) ← readHexDigits verbose digitCount other
      let char ← charOfCode? (Text.numberOfDigits 16 digits)
      some (⟨char, byteEscape⟩, after)

/-- The two sides of the first `!=` in a text. -/
def cutAtNotEqual : List Char → Option (List Char × List Char)
  | [] => none
  | c :: rest =>
      if c = '!' ∧ rest.head? = some '=' then some ([], rest.tail)
      else (cutAtNotEqual rest).map fun (before, after) => (c :: before, after)

/-- Divides what stands in the braces after `\p` into a property and a value. A value may be set off by
an inequality sign, which means the same as an equality sign. -/
def PropertyName.ofText (text : List Char) : PropertyName :=
  match cutAtNotEqual text with
  | some (property, value) => .valued property value
  | none =>
      match Text.cutAtFirst ':' text with
      | (property, some value) => .valued property value
      | (_, none) =>
          match Text.cutAtFirst '=' text with
          | (property, some value) => .valued property value
          | (_, none) => .alone text

/-- Reads the name of a property: one letter, or any text in braces. -/
def readProperty (verbose negated : Bool) (text : List Char) : Option (Escape × List Char) :=
  match skip verbose text with
  | [] => none
  | '\x7b' :: inside => do
      let (name, after) ← upToBrace verbose false inside
      some (.property (.ofText name) negated, after)
  | c :: rest => if c = '\\' then none else some (.property (.alone [c]) negated, rest)

/-- The one-sided word boundaries by the names that stand in braces after `\b`. -/
def boundaryNamed? (name : List Char) : Option Assertion :=
  match String.ofList name with
  | "start" => some .wordStart
  | "end" => some .wordEnd
  | "start-half" => some .wordStartHalf
  | "end-half" => some .wordEndHalf
  | _ => none

def isAsciiLetter (c : Char) : Bool :=
  ('a' ≤ c && c ≤ 'z') || ('A' ≤ c && c ≤ 'Z')

/-- Reads what follows `\b`. A brace that opens on neither a letter nor a hyphen begins a repetition. -/
def readBoundary (verbose : Bool) (text : List Char) : Option (Assertion × List Char) :=
  match text with
  | '\x7b' :: inside =>
      match skip verbose inside with
      | [] => none
      | c :: _ =>
          if isAsciiLetter c || c == '-' then do
            let (name, after) ← upToBrace verbose false inside
            let kind ← boundaryNamed? name
            some (kind, after)
          else some (.wordBoundary, text)
  | _ => some (.wordBoundary, text)

/-- An escaped punctuation, space or control character of the ASCII range stands for itself; angle
brackets are word boundaries instead. -/
def isEscapable (c : Char) : Bool :=
  c.toNat < 0x80 && !isAsciiLetter c && (Text.decimalDigit? c).isNone && c != '<' && c != '>'

/-- Reads the rest of an escape, after the backslash. Digits, which would refer back to a group, have no
meaning. -/
def readEscape (verbose : Bool) : List Char → Option (Escape × List Char)
  | [] => none
  | c :: rest =>
      match c with
      | 'x' => (readCode verbose 2 true rest).map fun (literal, after) => (.literal literal, after)
      | 'u' => (readCode verbose 4 false rest).map fun (literal, after) => (.literal literal, after)
      | 'U' => (readCode verbose 8 false rest).map fun (literal, after) => (.literal literal, after)
      | 'p' => readProperty verbose false rest
      | 'P' => readProperty verbose true rest
      | 'd' => some (.shorthand .digit false, rest)
      | 'D' => some (.shorthand .digit true, rest)
      | 's' => some (.shorthand .space false, rest)
      | 'S' => some (.shorthand .space true, rest)
      | 'w' => some (.shorthand .word false, rest)
      | 'W' => some (.shorthand .word true, rest)
      | 'a' => some (.literal ⟨'\x07', false⟩, rest)
      | 'f' => some (.literal ⟨'\x0c', false⟩, rest)
      | 't' => some (.literal ⟨'\t', false⟩, rest)
      | 'n' => some (.literal ⟨'\n', false⟩, rest)
      | 'r' => some (.literal ⟨'\r', false⟩, rest)
      | 'v' => some (.literal ⟨'\x0b', false⟩, rest)
      | 'A' => some (.assertion .textStart, rest)
      | 'z' => some (.assertion .textEnd, rest)
      | 'b' => (readBoundary verbose rest).map fun (kind, after) => (.assertion kind, after)
      | 'B' => some (.assertion .notWordBoundary, rest)
      | '<' => some (.assertion .wordStart, rest)
      | '>' => some (.assertion .wordEnd, rest)
      | _ => if isEscapable c then some (.literal ⟨c, false⟩, rest) else none

/-- The digits at the front of a text, between which a verbose text may hold space. -/
def readDigits (verbose : Bool) (text : List Char) : List Nat × List Char :=
  match text with
  | [] => ([], [])
  | c :: rest =>
      match Text.decimalDigit? c with
      | some digit =>
          let (digits, after) := readDigits verbose (skip verbose rest)
          (digit :: digits, after)
      | none => ([], c :: rest)
termination_by text.length
decreasing_by
  have := length_skip_le verbose rest
  simp only [List.length_cons]
  omega

/-- Reads one count of a repetition; a count fits into thirty-two bits. -/
def readCount (verbose : Bool) (text : List Char) : Option (Nat × List Char) :=
  let (digits, after) := readDigits verbose (text.dropWhile isBlank)
  let count := Text.numberOfDigits 10 digits
  if digits.isEmpty || count ≥ 0x100000000 then none else some (count, after.dropWhile isBlank)

/-- Reads the counts of a repetition, after the opening brace and with the closing one. -/
def readCounts (verbose : Bool) (text : List Char) : Option (Nat × Option Nat × List Char) := do
  let (least, after) ← readCount verbose (skip verbose text)
  match after with
  | '\x7d' :: rest => some (least, some least, rest)
  | ',' :: rest =>
      match skip verbose rest with
      | '\x7d' :: rest => some (least, none, rest)
      | bounded =>
          let (most, after) ← readCount verbose bounded
          match after with
          | '\x7d' :: rest => if least ≤ most then some (least, some most, rest) else none
          | _ => none
  | _ => none

end FormRules.Pattern
