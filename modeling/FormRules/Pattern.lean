/-
This file compiles patterns and matches whole texts against them.
-/

import FormRules.Pattern.Engine
import FormRules.Pattern.Meaning
import FormRules.Pattern.Reader

namespace FormRules

/-- Why a text is not used as a pattern. -/
inductive PatternError where
  | malformed (text : String)
  | tooLarge (limit : Nat)
  deriving DecidableEq, Repr

def PatternError.message : PatternError → String
  | .malformed text => text
  | .tooLarge limit => s!"Compiled regex exceeds size limit of {limit} bytes."

def PatternError.ofBuildError (error : Pattern.BuildError) : PatternError :=
  match error.sizeLimit? with
  | some limit => .tooLarge limit
  | none => .malformed error.text

/-- The meaning of a text as a pattern, on which no flag is set at first. -/
def Pattern.meaningOf? (text : String) : Option Pattern.Expr := do
  let node ← Pattern.Node.read? text.toList
  let (expr, _) ← node.meaning? {}
  some expr

/-- A pattern that is ready to be matched. -/
structure Pattern where
  expr : Pattern.Expr
  deriving DecidableEq

namespace Pattern

variable [Engine]

/-- The pattern that a text spells, with an anchor at each end. The anchors are added to what the text means
and not to the text. -/
def compile (text : String) : Except PatternError Pattern :=
  match meaningOf? text with
  | none => .error (.malformed (Engine.diagnosis text))
  | some expr =>
      match Engine.refusal? expr.anchored with
      | some error => .error (.ofBuildError error)
      | none => .ok ⟨expr.anchored⟩

/-- Whether the pattern is found in the value. -/
def accepts (pattern : Pattern) (value : String) : Bool :=
  Engine.isMatch pattern.expr value.toList

end Pattern

end FormRules
