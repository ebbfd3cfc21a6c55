/-
This file searches a text for a word that an expression spans. From each position it reads on and keeps the
set of residuals, that is, of what may still have to be spanned after the characters read so far.
-/

import FormRules.Pattern.Expr
import Std.Data.HashSet

namespace FormRules.Pattern

/-- Whether the expression spans the empty word between two neighbours. -/
def Expr.nullable (before after : Option Char) : Expr → Bool
  | .empty => true
  | .chars _ => false
  | .look kind => kind.holds before after
  | .cat first second => first.nullable before after && second.nullable before after
  | .alt left right => left.nullable before after || right.nullable before after
  | .rep _ least _ body => least == 0 || body.nullable before after
  | .group _ body => body.nullable before after

/-- What has to be spanned one part after the other. -/
abbrev Residual := List Expr

/-- What remains of a repetition after one iteration that takes a character. Iterations before it span
nothing, so if the body can do that, there may be as many of them as there have to be. -/
def Expr.remainder? (greedy bodyIsNullable : Bool) (body : Expr) : Nat → Option Nat → Option Expr
  | 0, some 0 => none
  | 0, extra => some (.rep greedy 0 (extra.map (· - 1)) body)
  | least + 1, extra =>
      if bodyIsNullable then some (.rep greedy 0 (extra.map (least + ·)) body)
      else some (.rep greedy least extra body)

/-- The residuals after the expression, followed by `next`, has taken the character `c`. -/
def Expr.advance (before : Option Char) (c : Char) (next : Residual) : Expr → List Residual
  | .empty | .look _ => []
  | .chars set => if set.contains c then [next] else []
  | .cat first second =>
      first.advance before c (second :: next)
        ++ if first.nullable before (some c) then second.advance before c next else []
  | .alt left right => left.advance before c next ++ right.advance before c next
  | .rep greedy least extra body =>
      match body.remainder? greedy (body.nullable before (some c)) least extra with
      | none => []
      | some rest => body.advance before c (rest :: next)
  | .group _ body => body.advance before c next

/-- The residuals after a residual has taken the character `c`. -/
def advanceResidual (before : Option Char) (c : Char) : Residual → List Residual
  | [] => []
  | expr :: rest =>
      expr.advance before c rest
        ++ if expr.nullable before (some c) then advanceResidual before c rest else []

/-- A number that tells apart most expressions by their first levels. -/
def Expr.fingerprint : Nat → Expr → UInt64
  | 0, _ => 7
  | _ + 1, .empty => 11
  | _ + 1, .chars set => mixHash 13 (hash (set.cuts.take 4))
  | _ + 1, .look _ => 17
  | depth + 1, .cat first second =>
      mixHash (first.fingerprint (depth / 2)) (second.fingerprint depth)
  | depth + 1, .alt left right =>
      mixHash 19 (mixHash (left.fingerprint (depth / 2)) (right.fingerprint depth))
  | depth + 1, .rep _ least extra body =>
      mixHash (mixHash (hash least) (hash extra)) (body.fingerprint depth)
  | depth + 1, .group _ body => mixHash 23 (body.fingerprint depth)

instance : Hashable Expr :=
  ⟨Expr.fingerprint 12⟩

/-- The residuals without repetitions, in no particular order. -/
def distinct (residuals : List Residual) : List Residual :=
  match residuals with
  | [] | [_] => residuals
  | _ => (Std.HashSet.ofList residuals).toList

/-- Whether one of the residuals spans a word at the front of the text, which stands after the character
`before`. -/
def spansFront (before : Option Char) (residuals : List Residual) : List Char → Bool
  | [] => residuals.any (·.all (Expr.nullable before none))
  | c :: rest =>
      !residuals.isEmpty &&
        (residuals.any (·.all (Expr.nullable before (some c))) ||
          spansFront (some c) (distinct (residuals.flatMap (advanceResidual before c))) rest)

/-- Whether the expression spans a word anywhere in the text, which stands after the character `before`. -/
def Expr.occurs (before : Option Char) (expr : Expr) : List Char → Bool
  | [] => spansFront before [[expr]] []
  | c :: rest => spansFront before [[expr]] (c :: rest) || expr.occurs (some c) rest

end FormRules.Pattern
