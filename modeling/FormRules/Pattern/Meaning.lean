/-
This file gives written patterns their meaning under flags. Some spellings have none: an unknown property,
and without Unicode everything that could take a character apart.
-/

import FormRules.Pattern.Expr
import FormRules.Pattern.Node
import FormRules.Unicode.CaseFolding

namespace FormRules.Pattern

/-- The flags that change the meaning of what follows them. -/
structure Flags where
  ignoreCase : Bool := false
  multiLine : Bool := false
  dotAll : Bool := false
  swapGreed : Bool := false
  unicode : Bool := true
  carriageReturn : Bool := false
  deriving DecidableEq, Repr

/-- How the pattern is spelled does not change its meaning. -/
def Flags.set (flags : Flags) : FlagChange → Flags
  | (.ignoreCase, value) => { flags with ignoreCase := value }
  | (.multiLine, value) => { flags with multiLine := value }
  | (.dotAll, value) => { flags with dotAll := value }
  | (.unicode, value) => { flags with unicode := value }
  | (.carriageReturn, value) => { flags with carriageReturn := value }
  | (.swapGreed, value) => { flags with swapGreed := value }
  | (.verbose, _) => flags

def Flags.setAll (flags : Flags) (changes : List FlagChange) : Flags :=
  changes.foldl Flags.set flags

/-- A set closed under case if the flags ask for it, and then negated if the pattern does. -/
def foldAndNegate (flags : Flags) (negated : Bool) (set : CharSet) : CharSet :=
  let folded :=
    if flags.ignoreCase then
      if flags.unicode then Unicode.foldCase set else Unicode.foldAsciiCase set
    else set
  if negated then folded.complement else folded

/-- Without Unicode a class may hold only ASCII characters. -/
def checkClass? (flags : Flags) (set : CharSet) : Option CharSet :=
  if flags.unicode || set.isAscii then some set else none

/-- A written byte beyond ASCII is no character without Unicode. -/
def checkLiteral? (flags : Flags) (literal : Literal) : Option Char :=
  if !flags.unicode && literal.byteEscape && literal.char.toNat ≥ 0x80 then none
  else some literal.char

def asciiRanges (kind : AsciiClass) : List (Nat × Nat) :=
  match kind with
  | .alnum => [(0x30, 0x39), (0x41, 0x5a), (0x61, 0x7a)]
  | .alpha => [(0x41, 0x5a), (0x61, 0x7a)]
  | .ascii => [(0, 0x7f)]
  | .blank => [(0x09, 0x09), (0x20, 0x20)]
  | .cntrl => [(0, 0x1f), (0x7f, 0x7f)]
  | .digit => [(0x30, 0x39)]
  | .graph => [(0x21, 0x7e)]
  | .lower => [(0x61, 0x7a)]
  | .print => [(0x20, 0x7e)]
  | .punct => [(0x21, 0x2f), (0x3a, 0x40), (0x5b, 0x60), (0x7b, 0x7e)]
  | .space => [(0x09, 0x0d), (0x20, 0x20)]
  | .upper => [(0x41, 0x5a)]
  | .word => [(0x30, 0x39), (0x41, 0x5a), (0x5f, 0x5f), (0x61, 0x7a)]
  | .xdigit => [(0x30, 0x39), (0x41, 0x46), (0x61, 0x66)]

def asciiClass (kind : AsciiClass) : CharSet :=
  CharSet.unionAll ((asciiRanges kind).map fun (first, last) => CharSet.range first last)

/-- The class of a shorthand. Case plays no part, since these classes are closed under it. -/
def shorthandSet? (flags : Flags) (kind : Shorthand) (negated : Bool) : Option CharSet :=
  let set :=
    match flags.unicode, kind with
    | true, .digit => Unicode.decimalDigits
    | true, .space => Unicode.whiteSpace
    | true, .word => Unicode.wordCharacters
    | false, .digit => asciiClass .digit
    | false, .space => asciiClass .space
    | false, .word => asciiClass .word
  checkClass? flags (if negated then set.complement else set)

def propertySet? (flags : Flags) (name : PropertyName) (negated : Bool) : Option CharSet :=
  if flags.unicode then
    let set? :=
      match name with
      | .alone name => Unicode.property? name
      | .valued property value => Unicode.propertyValue? property value
    set?.map (foldAndNegate flags negated)
  else none

/-- A character in a class, which without Unicode has to be an ASCII character. -/
def classChar? (flags : Flags) (literal : Literal) : Option Char := do
  let c ← checkLiteral? flags literal
  if flags.unicode || c.toNat < 0x80 then some c else none

def SetOperation.apply : SetOperation → CharSet → CharSet → CharSet
  | .intersection => CharSet.intersection
  | .difference => CharSet.difference
  | .symmetricDifference => CharSet.symmetricDifference

mutual

/-- The characters of a class. Both sides of an operation are closed under case before it. -/
def ClassSet.meaning? (flags : Flags) : ClassSet → Option CharSet
  | .literal written => (classChar? flags written).map CharSet.single
  | .range first last => do
      let first ← classChar? flags first
      let last ← classChar? flags last
      some (CharSet.range first.toNat last.toNat)
  | .ascii kind negated => checkClass? flags (foldAndNegate flags negated (asciiClass kind))
  | .shorthand kind negated => shorthandSet? flags kind negated
  | .property name negated => propertySet? flags name negated
  | .bracket negated content => do
      let set ← content.meaning? flags
      checkClass? flags (foldAndNegate flags negated set)
  | .union items => (ClassSet.meanings? flags items).map CharSet.unionAll
  | .operation kind left right => do
      let left ← left.meaning? flags
      let right ← right.meaning? flags
      some (kind.apply (foldAndNegate flags false left) (foldAndNegate flags false right))

def ClassSet.meanings? (flags : Flags) : List ClassSet → Option (List CharSet)
  | [] => some []
  | item :: items => do
      let set ← item.meaning? flags
      let sets ← ClassSet.meanings? flags items
      some (set :: sets)

end

def lineBreaks (flags : Flags) : CharSet :=
  if flags.carriageReturn then (CharSet.single '\n').union (CharSet.single '\r')
  else CharSet.single '\n'

/-- The characters that a dot stands for. -/
def dotSet? (flags : Flags) : Option CharSet :=
  if flags.unicode then
    some (if flags.dotAll then CharSet.all else (lineBreaks flags).complement)
  else none

def Assertion.look (flags : Flags) : Assertion → Look
  | .lineStart =>
      if flags.multiLine then
        if flags.carriageReturn then .returnLineStart else .lineStart
      else .start
  | .lineEnd =>
      if flags.multiLine then
        if flags.carriageReturn then .returnLineEnd else .lineEnd
      else .stop
  | .textStart => .start
  | .textEnd => .stop
  | .wordBoundary => .boundary flags.unicode
  | .notWordBoundary => .notBoundary flags.unicode
  | .wordStart => .wordStart flags.unicode
  | .wordEnd => .wordEnd flags.unicode
  | .wordStartHalf => .wordStartHalf flags.unicode
  | .wordEndHalf => .wordEndHalf flags.unicode

/-- The characters that a literal stands for. Without Unicode only ASCII characters have a case to
ignore, and others may not be written where case is ignored. -/
def literalSet? (flags : Flags) (literal : Literal) : Option CharSet := do
  let c ← checkLiteral? flags literal
  if flags.ignoreCase && !flags.unicode && c.toNat ≥ 0x80 then none
  else some (foldAndNegate flags false (CharSet.single c))

def Expr.ofList : List Expr → Expr
  | [] => .empty
  | [expr] => expr
  | expr :: rest => .cat expr (Expr.ofList rest)

/-- The choice between expressions; without any there is nothing to span. -/
def Expr.ofChoices : List Expr → Expr
  | [] => .chars CharSet.empty
  | [expr] => expr
  | expr :: rest => .alt expr (Expr.ofChoices rest)

mutual

/-- The meaning of a written pattern, and the flags that hold after it. Flags set inside of a group end
with the group. -/
def Node.meaning? (flags : Flags) : Node → Option (Expr × Flags)
  | .flags changes => some (.empty, flags.setAll changes)
  | .literal written => (literalSet? flags written).map fun set => (.chars set, flags)
  | .dot => (dotSet? flags).map fun set => (.chars set, flags)
  | .assertion kind => some (.look (kind.look flags), flags)
  | .shorthand kind negated =>
      (shorthandSet? flags kind negated).map fun set => (.chars set, flags)
  | .property name negated =>
      (propertySet? flags name negated).map fun set => (.chars set, flags)
  | .bracket negated content => do
      let set ← content.meaning? flags
      let set ← checkClass? flags (foldAndNegate flags negated set)
      some (.chars set, flags)
  | .repetition greedy least most body => do
      let (expr, flags) ← body.meaning? flags
      some (.rep (greedy != flags.swapGreed) least (most.map (· - least)) expr, flags)
  | .group captures changes body => do
      let (expr, _) ← body.meaning? (flags.setAll changes)
      some (.group captures expr, flags)
  | .alternation branches => do
      let (exprs, flags) ← Node.meanings? flags branches
      some (Expr.ofChoices exprs, flags)
  | .concatenation items => do
      let (exprs, flags) ← Node.meanings? flags items
      some (Expr.ofList exprs, flags)

def Node.meanings? (flags : Flags) : List Node → Option (List Expr × Flags)
  | [] => some ([], flags)
  | node :: nodes => do
      let (expr, flags) ← node.meaning? flags
      let (exprs, flags) ← Node.meanings? flags nodes
      some (expr :: exprs, flags)

end

end FormRules.Pattern
