/-
This file estimates how large an automaton an expression needs, counted repetitions written out. The automaton
reads UTF-8 bytes, forward or backward, and is built for an expression that has been simplified before.
-/

import FormRules.Number.Power
import FormRules.Pattern.Meaning
import Std.Data.HashSet

namespace FormRules.Pattern

/-- Bytes of one state, of one transition in a state with several, and of one branch. -/
def stateBytes : Nat := 32

def transitionBytes : Nat := 8

def branchBytes : Nat := 4

def sizeLimit : Nat := 10485760

/-- The least number of bytes that a character with this code takes in UTF-8. -/
def utf8Width (code : Nat) : Nat :=
  if code < 0x80 then 1 else if code < 0x800 then 2 else if code < 0x10000 then 3 else 4

/-- The fewest bytes that the expression spans. -/
def Expr.leastWidth : Expr → Nat
  | .empty | .look _ => 0
  | .chars set => (set.ranges.head?.map fun (first, _) => utf8Width first).getD 1
  | .cat first second => first.leastWidth + second.leastWidth
  | .alt left right => min left.leastWidth right.leastWidth
  | .rep _ least _ body => least * body.leastWidth
  | .group _ body => body.leastWidth

/-- Whether the expression spans nothing but the empty word. -/
def Expr.isWidthless : Expr → Bool
  | .empty | .look _ => true
  | .chars _ => false
  | .cat first second => first.isWidthless && second.isWidthless
  | .alt left right => left.isWidthless && right.isWidthless
  | .rep _ least extra body => (least == 0 && extra == some 0) || body.isWidthless
  | .group _ body => body.isWidthless

section Simplification

/-- Whether a group in the expression is told apart from all others. -/
def Expr.captures : Expr → Bool
  | .empty | .chars _ | .look _ => false
  | .cat first second => first.captures || second.captures
  | .alt left right => left.captures || right.captures
  | .rep _ _ _ body => body.captures
  | .group captures body => captures || body.captures

/-- The parts of a concatenation. -/
def Expr.parts : Expr → List Expr
  | .empty => []
  | .cat first second => first.parts ++ second.parts
  | expr => [expr]

/-- The branches of an alternation. -/
def Expr.branches : Expr → List Expr
  | .alt left right => left.branches ++ right.branches
  | expr => [expr]

def Expr.joined (exprs : List Expr) : Expr :=
  Expr.ofList (exprs.flatMap Expr.parts)

def Expr.set? : Expr → Option CharSet
  | .chars set => some set
  | _ => none

def Expr.isCharacter (expr : Expr) : Bool :=
  match expr.set?.map CharSet.ranges with
  | some [(first, last)] => first == last
  | _ => false

/-- Parts of a concatenation, with characters in a row as one part. -/
def pieces : List Expr → List Expr
  | [] => []
  | part :: rest =>
      match pieces rest with
      | [] => [part]
      | piece :: others =>
          if part.isCharacter && piece.parts.all Expr.isCharacter then .cat part piece :: others
          else part :: piece :: others

/-- The front that two lists of pieces have in common. -/
def commonPieces : List Expr → List Expr → List Expr
  | first :: rest, other :: others =>
      if first = other ∧ first.captures = false then first :: commonPieces rest others else []
  | _, _ => []

/-- The pieces that all branches begin with, if there are several branches and several pieces in each. -/
def commonFront : List (List Expr) → List Expr
  | first :: second :: others =>
      if (first :: second :: others).all fun pieces => decide (2 ≤ pieces.length) then
        (second :: others).foldl commonPieces first
      else []
  | _ => []

/-- The choice between branches, which is a set if they all are. -/
def Expr.united (branches : List Expr) : Expr :=
  match branches.mapM Expr.set? with
  | some sets => .chars (CharSet.unionAll sets)
  | none => Expr.ofChoices branches

/-- The choice between branches, in which what all of them begin with is written once. -/
def Expr.factored : List Expr → Expr
  | [branch] => branch
  | branches =>
      let written := branches.map fun branch => pieces branch.parts
      match commonFront written with
      | [] => Expr.united branches
      | front =>
          let backs := written.map fun pieces => Expr.joined (pieces.drop front.length)
          Expr.joined (front ++ [Expr.united (backs.flatMap Expr.branches)])

/-- A repetition. What has no width is not repeated. -/
def Expr.repeated (greedy : Bool) (least : Nat) (extra : Option Nat) (body : Expr) : Expr :=
  let (least, extra) :=
    if body.isWidthless then (min least 1, some (if least = 0 then (extra.map (min 1)).getD 1 else 0))
    else (least, extra)
  match least, extra with
  | 0, some 0 => .empty
  | 1, some 0 => body
  | least, extra => .rep greedy least extra body

/-- The branches of the expression, each of them simplified. -/
def Expr.simplifiedBranches : Expr → List Expr
  | .alt left right => left.simplifiedBranches ++ right.simplifiedBranches
  | .cat first second =>
      [Expr.joined [Expr.factored first.simplifiedBranches, Expr.factored second.simplifiedBranches]]
  | .rep greedy least extra body =>
      [Expr.repeated greedy least extra (Expr.factored body.simplifiedBranches)]
  | .group captures body =>
      let inside := Expr.factored body.simplifiedBranches
      if captures then [.group true inside] else inside.branches
  | expr => [expr]

def Expr.simplified (expr : Expr) : Expr :=
  Expr.factored expr.simplifiedBranches

end Simplification

/-- A range of bytes. -/
abbrev ByteRange := Nat × Nat

/-- The number of codes that agree on all but the last continuation bytes, of which each holds six bits. -/
def blockSize (position : Nat) : Nat := twoTo (6 * position)

/-- The byte of a code at a position counted from the last one. -/
def continuationByte (code position : Nat) : Nat :=
  0x80 + code / blockSize position % 64

def leadByte (width code : Nat) : Nat :=
  match width with
  | 1 => code
  | 2 => 0xc0 + code / 64
  | 3 => 0xe0 + code / blockSize 2
  | _ => 0xf0 + code / blockSize 3

/-- The byte ranges, first byte first, of codes that take the same number of bytes and agree on all
continuation bytes but for whole blocks. -/
def byteRanges (width first last : Nat) : List ByteRange :=
  (leadByte width first, leadByte width last)
    :: ((List.range (width - 1)).reverse.map fun position =>
      (continuationByte first position, continuationByte last position))

/-- Divides codes at the ends of blocks, the largest ones first, so that every part is a sequence of byte
ranges. -/
def splitBlocks (width : Nat) : Nat → Nat → Nat → List (List ByteRange)
  | 0, first, last => [byteRanges width first last]
  | position + 1, first, last =>
      let block := blockSize (position + 1)
      if first / block = last / block then splitBlocks width position first last
      else
        let low :=
          if first % block = 0 then []
          else splitBlocks width position first (first / block * block + block - 1)
        let high :=
          if last % block = block - 1 then []
          else splitBlocks width position (last / block * block) last
        let middleFirst := if first % block = 0 then first else first / block * block + block
        let middleEnd := if last % block = block - 1 then last + 1 else last / block * block
        let middle :=
          if middleFirst < middleEnd then [byteRanges width middleFirst (middleEnd - 1)] else []
        low ++ middle ++ high

/-- The bounds between characters that differ in width; surrogates, which are no characters, lie between
two of them. -/
def widthBounds : List (Nat × Nat) :=
  [(0, 0x7f), (0x80, 0x7ff), (0x800, 0xd7ff), (0xe000, 0xffff), (0x10000, 0x10ffff)]

/-- The sequences of byte ranges that encode the characters of a set. -/
def byteSequences (set : CharSet) : List (List ByteRange) :=
  set.ranges.flatMap fun (first, last) =>
    widthBounds.flatMap fun (low, high) =>
      let first := max first low
      let last := min last high
      if first ≤ last then splitBlocks (utf8Width first) (utf8Width first - 1) first last else []

/-- The sequences by their first range, neighbours with the same one together. -/
def groupByFirst : List (List ByteRange) → List (ByteRange × List (List ByteRange))
  | [] => []
  | [] :: rest => groupByFirst rest
  | (range :: tail) :: rest =>
      match groupByFirst rest with
      | [] => [(range, [tail])]
      | (next, tails) :: groups =>
          if next = range then (range, (tail :: tails)) :: groups
          else (range, [tail]) :: (next, tails) :: groups

/-- The transitions of every state that reads the sequences, where states that read the same are one. The
first number bounds the length of the sequences. -/
def readingStates : Nat → List (List ByteRange) → Std.HashMap (List (List ByteRange)) Nat →
    Std.HashMap (List (List ByteRange)) Nat
  | 0, _, states => states
  | length + 1, sequences, states =>
      if sequences.all List.isEmpty || states.contains sequences then states
      else
        let groups := groupByFirst sequences
        groups.foldl (fun states group => readingStates length group.2 states)
          (states.insert sequences groups.length)

/-- Bytes of the states that read a set forward: shared where the rest of the encoding is the same. -/
def forwardClassBytes (set : CharSet) : Nat :=
  let states := readingStates 5 (byteSequences set) ∅
  stateBytes
    + states.fold (fun total _ transitions => total + stateBytes + transitionBytes * transitions) 0

/-- Bytes of the states that read a set backward: shared where the encodings begin with the same ranges. -/
def backwardClassBytes (set : CharSet) : Nat :=
  let sequences := byteSequences set
  let shared : Std.HashSet (List ByteRange) :=
    Std.HashSet.ofList (sequences.flatMap fun sequence =>
      (List.range sequence.length).map fun count => sequence.take (count + 1))
  stateBytes * (2 + shared.size) + branchBytes * sequences.length

inductive Direction where
  | forward
  | backward
  deriving DecidableEq

/-- Bytes of the states that read one character of a set. -/
def classBytes (direction : Direction) (set : CharSet) : Nat :=
  match set.ranges with
  | [] => stateBytes
  | (first, last) :: rest =>
      if rest.isEmpty && first == last then stateBytes * utf8Width first
      else if set.isAscii then 2 * stateBytes + transitionBytes * set.ranges.length
      else
        match direction with
        | .forward => forwardClassBytes set
        | .backward => backwardClassBytes set

/-- Bytes of a repetition whose body takes `body` bytes. -/
def repetitionBytes (least : Nat) (extra : Option Nat) (bodyIsNullable : Bool) (body : Nat) : Nat :=
  let copies := if least = 0 then stateBytes else least * body
  let choice := stateBytes + 2 * branchBytes
  match extra with
  | some 0 => copies
  | some extra =>
      if least = 0 ∧ extra = 1 then body + choice + stateBytes
      else copies + stateBytes + extra * (body + choice)
  | none =>
      if least = 0 then
        if bodyIsNullable then body + 2 * choice + stateBytes else body + choice
      else least * body + choice

/-- Bytes of the automaton for a simplified expression. Groups are told apart only forward. -/
def Expr.automatonBytes (direction : Direction) : Expr → Nat
  | .empty | .look _ => stateBytes
  | .chars set => classBytes direction set
  | .cat first second => first.automatonBytes direction + second.automatonBytes direction
  | .alt left right =>
      let total := left.automatonBytes direction + right.automatonBytes direction + branchBytes
      match right with
      | .alt .. => total
      | _ => total + 2 * stateBytes + branchBytes
  | .rep _ least extra body =>
      repetitionBytes least extra (body.leastWidth == 0) (body.automatonBytes direction)
  | .group _ body =>
      match direction with
      | .forward => body.automatonBytes direction + 2 * stateBytes
      | .backward => body.automatonBytes direction

/-- Whether the automaton for an expression stays within the limit in both directions. -/
def Expr.fits (expr : Expr) : Bool :=
  let simplified := expr.simplified
  let frame := 5 * stateBytes
  simplified.automatonBytes .forward + frame ≤ sizeLimit
    && simplified.automatonBytes .backward + frame ≤ sizeLimit

end FormRules.Pattern
