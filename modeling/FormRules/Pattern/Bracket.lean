/-
This file reads bracketed classes. Classes may contain classes, and set operations bind to the left with
equal strength, so a stack of open brackets is enough.
-/

import FormRules.Pattern.Spelling

namespace FormRules.Pattern

/-- An open bracket: whether it is negated, the operation that waits for its right side, and the items
read since then, last one first. -/
structure OpenBracket where
  negated : Bool
  pending : Option (SetOperation × ClassSet)
  items : List ClassSet

/-- What was read since the last operation. -/
def OpenBracket.operand (bracket : OpenBracket) : ClassSet :=
  ClassSet.ofItems bracket.items.reverse

/-- Everything read since the bracket was opened. -/
def OpenBracket.content (bracket : OpenBracket) : ClassSet :=
  match bracket.pending with
  | none => bracket.operand
  | some (kind, left) => .operation kind left bracket.operand

def OpenBracket.push (bracket : OpenBracket) (item : ClassSet) : OpenBracket :=
  { bracket with items := item :: bracket.items }

/-- Starts the right side of an operation. -/
def OpenBracket.operate (bracket : OpenBracket) (kind : SetOperation) : OpenBracket :=
  { bracket with pending := some (kind, bracket.content), items := [] }

def ClassSet.ofChar (c : Char) : ClassSet :=
  .literal ⟨c, false⟩

/-- Hyphens at the front of a class stand for themselves. -/
def leadingHyphens (verbose : Bool) (text : List Char) : List ClassSet × List Char :=
  match text with
  | '-' :: rest =>
      let (items, after) := leadingHyphens verbose (skip verbose rest)
      (.ofChar '-' :: items, after)
  | other => ([], other)
termination_by text.length
decreasing_by
  have := length_skip_le verbose rest
  simp only [List.length_cons]
  omega

/-- Whether a caret negates a class, and what comes after it. -/
def readNegation (verbose : Bool) (text : List Char) : Bool × List Char :=
  match skip verbose text with
  | '^' :: rest => (true, skip verbose rest)
  | other => (false, other)

/-- Reads the front of a class, after its bracket: a caret, hyphens, or a closing bracket that stands for
itself. -/
def readOpening (verbose : Bool) (text : List Char) : OpenBracket × List Char :=
  let (negated, text) := readNegation verbose text
  match leadingHyphens verbose text with
  | ([], ']' :: rest) => (⟨negated, none, [.ofChar ']']⟩, skip verbose rest)
  | (items, rest) => (⟨negated, none, items⟩, rest)

def asciiClassNamed? (name : List Char) : Option AsciiClass :=
  match String.ofList name with
  | "alnum" => some .alnum
  | "alpha" => some .alpha
  | "ascii" => some .ascii
  | "blank" => some .blank
  | "cntrl" => some .cntrl
  | "digit" => some .digit
  | "graph" => some .graph
  | "lower" => some .lower
  | "print" => some .print
  | "punct" => some .punct
  | "space" => some .space
  | "upper" => some .upper
  | "word" => some .word
  | "xdigit" => some .xdigit
  | _ => none

/-- Reads a class such as `[:alpha:]`, after its first bracket. -/
def readAsciiClass (text : List Char) : Option (ClassSet × List Char) :=
  match text with
  | ':' :: rest =>
      let (negated, rest) :=
        match rest with
        | '^' :: rest => (true, rest)
        | other => (false, other)
      match Text.cutAtFirst ':' rest with
      | (name, some (']' :: after)) =>
          (asciiClassNamed? name).map fun kind => (.ascii kind negated, after)
      | _ => none
  | _ => none

/-- Reads one item of a class, and the literal it is if it may bound a range. -/
def readItem (verbose : Bool) : List Char → Option (ClassSet × Option Literal × List Char)
  | [] => none
  | '\\' :: rest =>
      match readEscape verbose rest with
      | some (.literal literal, after) => some (.literal literal, some literal, after)
      | some (.shorthand kind negated, after) => some (.shorthand kind negated, none, after)
      | some (.property name negated, after) => some (.property name negated, none, after)
      | some (.assertion _, _) | none => none
  | c :: rest => some (.ofChar c, some ⟨c, false⟩, rest)

/-- The first character that is not blank; only a number sign at the front is passed over. -/
def firstVisible (passed : Bool) : List Char → Option Char
  | [] => none
  | c :: rest =>
      if Text.isBlank c then firstVisible passed rest
      else if !passed && c == '#' then firstVisible true rest
      else some c

/-- The character after a hyphen, by which a range is told from a hyphen that stands for itself. -/
def peek (verbose : Bool) (text : List Char) : Option Char :=
  if verbose then (firstVisible false text).or text.head? else text.head?

/-- Reads an item or a range of a class. -/
def readRange (verbose : Bool) (text : List Char) : Option (ClassSet × List Char) := do
  let (item, first, after) ← readItem verbose text
  match skip verbose after with
  | '-' :: rest =>
      let next := peek verbose rest
      if next = some ']' ∨ next = some '-' then some (item, '-' :: rest)
      else
        let (_, last, after) ← readItem verbose (skip verbose rest)
        let first ← first
        let last ← last
        if first.char ≤ last.char then some (.range first last, after) else none
  | after => some (item, after)

/-- The written set operation at the front of a text. -/
def readOperation : List Char → Option (SetOperation × List Char)
  | '&' :: '&' :: rest => some (.intersection, rest)
  | '-' :: '-' :: rest => some (.difference, rest)
  | '~' :: '~' :: rest => some (.symmetricDifference, rest)
  | _ => none

/-- Reads a class up to the bracket that closes the outermost of the open ones. -/
def readClassFrom (verbose : Bool) :
    Nat → OpenBracket → List OpenBracket → List Char → Option (Node × List Char)
  | 0, _, _, _ => none
  | steps + 1, bracket, outer, text =>
      match skip verbose text with
      | [] => none
      | '[' :: rest =>
          match readAsciiClass rest with
          | some (item, after) => readClassFrom verbose steps (bracket.push item) outer after
          | none =>
              let (inner, after) := readOpening verbose rest
              readClassFrom verbose steps inner (bracket :: outer) after
      | ']' :: rest =>
          match outer with
          | [] => some (.bracket bracket.negated bracket.content, rest)
          | enclosing :: outer =>
              readClassFrom verbose steps
                (enclosing.push (.bracket bracket.negated bracket.content)) outer rest
      | c :: rest =>
          match readOperation (c :: rest) with
          | some (kind, after) => readClassFrom verbose steps (bracket.operate kind) outer after
          | none =>
              match readRange verbose (c :: rest) with
              | some (item, after) => readClassFrom verbose steps (bracket.push item) outer after
              | none => none

/-- Reads a class, after its bracket. Every step takes at least one character. -/
def readClass (verbose : Bool) (text : List Char) : Option (Node × List Char) :=
  let (bracket, rest) := readOpening verbose text
  readClassFrom verbose (text.length + 1) bracket [] rest

end FormRules.Pattern
