/-
This file reads a whole pattern. Groups may be nested, so the reader keeps a stack of open groups with
what was read before each of them.
-/

import FormRules.Pattern.Bracket
import FormRules.Unicode.Property

namespace FormRules.Pattern

/-- What a group has to return to when it is closed. Lists hold what was read last first. -/
structure OpenGroup where
  captures : Bool
  changes : List FlagChange
  verboseOutside : Bool
  branchesOutside : List Node
  itemsOutside : List Node

/-- The state of the reader inside of the innermost open group. Lists hold what was read last first. -/
structure ReaderState where
  verbose : Bool
  names : List (List Char)
  branches : List Node
  items : List Node
  groups : List OpenGroup

def ReaderState.initial : ReaderState :=
  ⟨false, [], [], [], []⟩

def ReaderState.push (state : ReaderState) (node : Node) : ReaderState :=
  { state with items := node :: state.items }

/-- What was read since the innermost group was opened. -/
def ReaderState.content (state : ReaderState) : Node :=
  Node.ofBranches (Node.ofItems state.items.reverse :: state.branches).reverse

def ReaderState.endBranch (state : ReaderState) : ReaderState :=
  { state with
    branches := Node.ofItems state.items.reverse :: state.branches
    items := [] }

def ReaderState.openGroup (state : ReaderState) (captures : Bool) (changes : List FlagChange)
    (verboseInside : Bool) : ReaderState :=
  { state with
    verbose := verboseInside
    branches := []
    items := []
    groups := ⟨captures, changes, state.verbose, state.branches, state.items⟩ :: state.groups }

def ReaderState.closeGroup? (state : ReaderState) : Option ReaderState :=
  match state.groups with
  | [] => none
  | group :: groups =>
      some
        { state with
          verbose := group.verboseOutside
          branches := group.branchesOutside
          items := .group group.captures group.changes state.content :: group.itemsOutside
          groups := groups }

/-- Repeats the last item, which there has to be; flags cannot be repeated. -/
def ReaderState.repeat? (state : ReaderState) (greedy : Bool) (least : Nat) (most : Option Nat) :
    Option ReaderState :=
  match state.items with
  | [] | .flags _ :: _ => none
  | item :: items => some { state with items := .repetition greedy least most item :: items }

def Flag.ofChar? : Char → Option Flag
  | 'i' => some .ignoreCase
  | 'm' => some .multiLine
  | 's' => some .dotAll
  | 'U' => some .swapGreed
  | 'u' => some .unicode
  | 'R' => some .carriageReturn
  | 'x' => some .verbose
  | _ => none

/-- Reads flags up to a colon or a closing parenthesis, which is returned with the rest of the text. No
flag is written twice, and the one hyphen stands before a flag. -/
def readFlags (seen : List Flag) (clearing afterHyphen : Bool) :
    List Char → Option (List FlagChange × List Char)
  | [] => none
  | c :: rest =>
      if c = ':' ∨ c = ')' then
        if afterHyphen then none else some ([], c :: rest)
      else if c = '-' then
        if clearing then none else readFlags seen true true rest
      else
        match Flag.ofChar? c with
        | none => none
        | some flag =>
            if flag ∈ seen then none
            else (readFlags (flag :: seen) clearing false rest).map fun (changes, after) =>
              ((flag, !clearing) :: changes, after)

/-- The value that changes give to the verbose flag, if they name it. -/
def verboseAfter (changes : List FlagChange) (before : Bool) : Bool :=
  ((changes.find? fun change => change.1 == .verbose).map (·.2)).getD before

def isNameStart (c : Char) : Bool :=
  c == '_' || Unicode.alphabetic.contains c

def isNamePart (c : Char) : Bool :=
  c == '_' || c == '.' || c == '[' || c == ']'
    || Unicode.alphabetic.contains c || Unicode.numbers.contains c

/-- Reads the name of a group and the angle bracket that closes it. -/
def readName (text : List Char) : Option (List Char × List Char) :=
  match Text.cutAtFirst '>' text with
  | (c :: name, some after) =>
      if isNameStart c && name.all isNamePart then some (c :: name, after) else none
  | _ => none

/-- Reads the front of a group after its parenthesis, or flags for the rest of the enclosing one. Groups
that look ahead or behind have no meaning. -/
def readOpenGroup (state : ReaderState) (text : List Char) : Option (ReaderState × List Char) :=
  let named (rest : List Char) := do
    let (name, after) ← readName rest
    if name ∈ state.names then none
    else
      let state := { state with names := name :: state.names }
      some (state.openGroup true [] state.verbose, after)
  match skip state.verbose text with
  | '?' :: '=' :: _ | '?' :: '!' :: _ | '?' :: '<' :: '=' :: _ | '?' :: '<' :: '!' :: _ => none
  | '?' :: 'P' :: '<' :: rest => named rest
  | '?' :: '<' :: rest => named rest
  | '?' :: rest => do
      let (changes, after) ← readFlags [] false false rest
      let verbose := verboseAfter changes state.verbose
      match after with
      | ')' :: after =>
          if changes.isEmpty then none
          else some ({ state with verbose := verbose }.push (.flags changes), after)
      | _ => some (state.openGroup false changes verbose, after.tail)
  | rest => some (state.openGroup true [] state.verbose, rest)

/-- Reads whether a repetition is greedy. It is unless a question mark follows it. -/
def readGreed : List Char → Bool × List Char
  | '?' :: rest => (false, rest)
  | text => (true, text)

def Node.ofEscape : Escape → Node
  | .literal written => .literal written
  | .assertion kind => .assertion kind
  | .shorthand kind negated => .shorthand kind negated
  | .property name negated => .property name negated

/-- Repeats the last item, greedily or not as the text goes on. -/
def repeatFrom (state : ReaderState) (least : Nat) (most : Option Nat) (text : List Char) :
    Option (ReaderState × List Char) :=
  let (greedy, rest) := readGreed text
  (state.repeat? greedy least most).map (·, rest)

/-- Reads one part of a pattern, which begins with the given character. -/
def readPart (state : ReaderState) (c : Char) (rest : List Char) :
    Option (ReaderState × List Char) :=
  match c with
  | '(' => readOpenGroup state rest
  | ')' => state.closeGroup?.map (·, rest)
  | '|' => some (state.endBranch, rest)
  | '[' => (readClass state.verbose rest).map fun (node, after) => (state.push node, after)
  | '?' => repeatFrom state 0 (some 1) rest
  | '*' => repeatFrom state 0 none rest
  | '+' => repeatFrom state 1 none rest
  | '\x7b' => do
      let (least, most, after) ← readCounts state.verbose rest
      repeatFrom state least most (skip state.verbose after)
  | '\\' => (readEscape state.verbose rest).map fun (escape, after) =>
      (state.push (.ofEscape escape), after)
  | '.' => some (state.push .dot, rest)
  | '^' => some (state.push (.assertion .lineStart), rest)
  | '$' => some (state.push (.assertion .lineEnd), rest)
  | _ => some (state.push (.literal ⟨c, false⟩), rest)

/-- Reads parts until the text ends, when no group may be open. -/
def readFrom : Nat → ReaderState → List Char → Option Node
  | 0, _, _ => none
  | steps + 1, state, text =>
      match skip state.verbose text with
      | [] => if state.groups.isEmpty then some state.content else none
      | c :: rest =>
          match readPart state c rest with
          | some (state, after) => readFrom steps state after
          | none => none

/-- The pattern that a text spells, unless it spells none or one that is nested too deeply. Every step of
the reader takes at least one character. -/
def Node.read? (text : List Char) : Option Node :=
  match readFrom (text.length + 1) .initial text with
  | some node => if node.depth ≤ depthLimit then some node else none
  | none => none

end FormRules.Pattern
