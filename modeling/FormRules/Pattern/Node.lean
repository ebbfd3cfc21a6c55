/-
This file holds the written form of a pattern: what its text says before any flag is applied.
-/

namespace FormRules.Pattern

inductive Flag where
  | ignoreCase
  | multiLine
  | dotAll
  | swapGreed
  | unicode
  | carriageReturn
  | verbose
  deriving DecidableEq, Repr

/-- A flag and the value that it is set to. -/
abbrev FlagChange := Flag × Bool

/-- A written character. `byteEscape` marks the spelling `\xHH`, which means a byte without Unicode. -/
structure Literal where
  char : Char
  byteEscape : Bool := false
  deriving DecidableEq, Repr

inductive Assertion where
  | lineStart
  | lineEnd
  | textStart
  | textEnd
  | wordBoundary
  | notWordBoundary
  | wordStart
  | wordEnd
  | wordStartHalf
  | wordEndHalf
  deriving DecidableEq, Repr

/-- The classes written `\d`, `\s` and `\w`. -/
inductive Shorthand where
  | digit
  | space
  | word
  deriving DecidableEq, Repr

/-- The classes written `[:name:]` inside of a bracketed class. -/
inductive AsciiClass where
  | alnum
  | alpha
  | ascii
  | blank
  | cntrl
  | digit
  | graph
  | lower
  | print
  | punct
  | space
  | upper
  | word
  | xdigit
  deriving DecidableEq, Repr

/-- What is written after `\p`: a name alone, or a property with a value. -/
inductive PropertyName where
  | alone (name : List Char)
  | valued (property value : List Char)
  deriving DecidableEq, Repr

inductive SetOperation where
  | intersection
  | difference
  | symmetricDifference
  deriving DecidableEq, Repr

/-- The contents of a bracketed class. -/
inductive ClassSet where
  | literal (literal : Literal)
  | range (first last : Literal)
  | ascii (kind : AsciiClass) (negated : Bool)
  | shorthand (kind : Shorthand) (negated : Bool)
  | property (name : PropertyName) (negated : Bool)
  | bracket (negated : Bool) (content : ClassSet)
  | union (items : List ClassSet)
  | operation (kind : SetOperation) (left right : ClassSet)

/-- A written pattern. A concatenation without items is the empty pattern. -/
inductive Node where
  | flags (changes : List FlagChange)
  | literal (literal : Literal)
  | dot
  | assertion (kind : Assertion)
  | shorthand (kind : Shorthand) (negated : Bool)
  | property (name : PropertyName) (negated : Bool)
  | bracket (negated : Bool) (content : ClassSet)
  | repetition (greedy : Bool) (least : Nat) (most : Option Nat) (body : Node)
  | group (captures : Bool) (changes : List FlagChange) (body : Node)
  | alternation (branches : List Node)
  | concatenation (items : List Node)

/-- A single item stands for itself. -/
def ClassSet.ofItems : List ClassSet → ClassSet
  | [item] => item
  | items => .union items

/-- A single item stands for itself. -/
def Node.ofItems : List Node → Node
  | [item] => item
  | items => .concatenation items

/-- A single branch stands for itself. -/
def Node.ofBranches : List Node → Node
  | [branch] => branch
  | branches => .alternation branches

mutual

/-- How deeply brackets, unions and operations are nested in a class. -/
def ClassSet.depth : ClassSet → Nat
  | .literal _ | .range .. | .ascii .. | .shorthand .. | .property .. => 0
  | .bracket _ content => content.depth + 1
  | .union [] => 0
  | .union (item :: items) => max item.depth (ClassSet.depthOfAll items) + 1
  | .operation _ left right => max left.depth right.depth + 1

def ClassSet.depthOfAll : List ClassSet → Nat
  | [] => 0
  | item :: items => max item.depth (ClassSet.depthOfAll items)

end

mutual

/-- How deeply groups, repetitions, alternations, concatenations and classes are nested. -/
def Node.depth : Node → Nat
  | .flags _ | .literal _ | .dot | .assertion _ | .shorthand .. | .property .. => 0
  | .bracket _ content => content.depth + 1
  | .repetition _ _ _ body => body.depth + 1
  | .group _ _ body => body.depth + 1
  | .alternation branches => Node.depthOfAll branches + 1
  | .concatenation [] => 0
  | .concatenation (item :: items) => max item.depth (Node.depthOfAll items) + 1

def Node.depthOfAll : List Node → Nat
  | [] => 0
  | node :: nodes => max node.depth (Node.depthOfAll nodes)

end

/-- The deepest nesting that a pattern may have. -/
def depthLimit : Nat := 250

end FormRules.Pattern
