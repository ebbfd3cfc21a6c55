/-
This file holds what a pattern means: an expression over sets of characters and look-around assertions,
and the words that it spans. Which of several spans a search would prefer plays no part in that.
-/

import FormRules.CharSet
import FormRules.Unicode.Property

namespace FormRules.Pattern

/-- Assertions about the characters on both sides of a position. `unicode` chooses which characters make
up words. -/
inductive Look where
  | start
  | stop
  | lineStart
  | lineEnd
  | returnLineStart
  | returnLineEnd
  | boundary (unicode : Bool)
  | notBoundary (unicode : Bool)
  | wordStart (unicode : Bool)
  | wordEnd (unicode : Bool)
  | wordStartHalf (unicode : Bool)
  | wordEndHalf (unicode : Bool)
  deriving DecidableEq, Repr

def asciiWordCharacters : CharSet :=
  CharSet.unionAll
    [CharSet.range 0x30 0x39, CharSet.range 0x41 0x5a, CharSet.range 0x5f 0x5f,
      CharSet.range 0x61 0x7a]

/-- Whether there is a neighbour and it belongs to a word. -/
def inWord (unicode : Bool) : Option Char → Bool
  | none => false
  | some c => (if unicode then Unicode.wordCharacters else asciiWordCharacters).contains c

/-- Whether an assertion holds between two neighbours, of which the ends of the text have none. -/
def Look.holds (before after : Option Char) : Look → Bool
  | .start => before.isNone
  | .stop => after.isNone
  | .lineStart => before.isNone || before == some '\n'
  | .lineEnd => after.isNone || after == some '\n'
  | .returnLineStart =>
      before.isNone || before == some '\n' || (before == some '\r' && after != some '\n')
  | .returnLineEnd =>
      after.isNone || after == some '\r' || (after == some '\n' && before != some '\r')
  | .boundary unicode => inWord unicode before != inWord unicode after
  | .notBoundary unicode => inWord unicode before == inWord unicode after
  | .wordStart unicode => !inWord unicode before && inWord unicode after
  | .wordEnd unicode => inWord unicode before && !inWord unicode after
  | .wordStartHalf unicode => !inWord unicode before
  | .wordEndHalf unicode => !inWord unicode after

/-- What a pattern means. A repetition has a number of iterations that there have to be, and a number of
`extra` ones that there may be, which can be unbounded. A greedy one prefers many iterations to few. -/
inductive Expr where
  | empty
  | chars (set : CharSet)
  | look (kind : Look)
  | cat (first second : Expr)
  | alt (left right : Expr)
  | rep (greedy : Bool) (least : Nat) (extra : Option Nat) (body : Expr)
  | group (captures : Bool) (body : Expr)
  deriving DecidableEq

/-- `Spans before after e word` says that `e` can span `word` where `before` and `after` are the
neighbours of the word in the text. -/
inductive Spans : Option Char → Option Char → Expr → List Char → Prop where
  | empty {before after} : Spans before after .empty []
  | chars {before after set c} : set.contains c = true → Spans before after (.chars set) [c]
  | look {before after kind} : kind.holds before after = true → Spans before after (.look kind) []
  | cat {before after first second word rest} :
      Spans before (rest.head?.or after) first word →
      Spans (word.getLast?.or before) after second rest →
      Spans before after (.cat first second) (word ++ rest)
  | altLeft {before after left right word} :
      Spans before after left word → Spans before after (.alt left right) word
  | altRight {before after left right word} :
      Spans before after right word → Spans before after (.alt left right) word
  | repDone {before after greedy extra body} : Spans before after (.rep greedy 0 extra body) []
  | repLeast {before after greedy least extra body word rest} :
      Spans before (rest.head?.or after) body word →
      Spans (word.getLast?.or before) after (.rep greedy least extra body) rest →
      Spans before after (.rep greedy (least + 1) extra body) (word ++ rest)
  | repExtra {before after greedy extra body word rest} :
      extra ≠ some 0 →
      Spans before (rest.head?.or after) body word →
      Spans (word.getLast?.or before) after (.rep greedy 0 (extra.map (· - 1)) body) rest →
      Spans before after (.rep greedy 0 extra body) (word ++ rest)
  | group {before after captures body word} :
      Spans before after body word → Spans before after (.group captures body) word

/-- A word in a text, with what stands on both sides of it. -/
structure Span where
  before : List Char
  word : List Char
  after : List Char
  deriving DecidableEq

def Span.text (span : Span) : List Char :=
  span.before ++ span.word ++ span.after

namespace Expr

/-- The expression spans the word where it stands. -/
def SpansIn (expr : Expr) (span : Span) : Prop :=
  Spans span.before.getLast? span.after.head? expr span.word

/-- The expression between the start and the end of the text. -/
def anchored (expr : Expr) : Expr :=
  .cat (.look .start) (.cat expr (.look .stop))

end Expr

end FormRules.Pattern
