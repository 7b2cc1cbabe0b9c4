import EntityQuery.Specification.Basic

set_option autoImplicit false

namespace EntityQuery

inductive Composition (ρ α : Type) [ResultTypes ρ] where
  | predicate (expr : Expr)
  | named (name : String) (expr : Expr)
  | specification (spec : Specification ρ α)
  | and (left right : Composition ρ α)
  | or (left right : Composition ρ α)
  | not (inner : Composition ρ α)

namespace Composition

variable {ρ α : Type} [ResultTypes ρ]

def always : Composition ρ α := predicate (.const true)

def never : Composition ρ α := predicate (.const false)

def toExpr : Composition ρ α → Expr
  | predicate e => e
  | named _ e => e
  | specification spec => spec.toExpr
  | and left right => .both left.toExpr right.toExpr
  | or left right => .either left.toExpr right.toExpr
  | not inner => .negate inner.toExpr

end Composition

end EntityQuery
