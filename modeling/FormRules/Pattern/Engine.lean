/-
This file says what is left to a library: to say what is wrong with a text that is no pattern, to build an
automaton for an expression, and to search texts with it. Which automata are too large, and how the library
words what it says, is not known here.
-/

import FormRules.Pattern.Expr

namespace FormRules.Pattern

/-- Why no automaton is built for an expression. If it would be larger than allowed, the limit is known. -/
structure BuildError where
  sizeLimit? : Option Nat
  text : String
  deriving DecidableEq, Repr

/-- What a library for patterns does. -/
class Engine where
  /-- What is wrong with a text that is no pattern. -/
  diagnosis : String → String
  /-- Why no automaton is built for an expression, if none is. -/
  refusal? : Expr → Option BuildError
  /-- Whether the automaton for an expression finds something in a text. -/
  isMatch : Expr → List Char → Bool
  /-- The size of its automaton is all that speaks against an expression. -/
  limited : ∀ {expr error}, refusal? expr = some error → error.sizeLimit?.isSome = true
  /-- A search tells whether the expression spans any word in the text. -/
  isMatch_iff : ∀ {expr text}, isMatch expr text = true ↔ ∃ span : Span, span.text = text ∧ expr.SpansIn span

end FormRules.Pattern
