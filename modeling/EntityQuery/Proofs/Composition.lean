import EntityQuery.Composition
import EntityQuery.Proofs.Expr.Folding

set_option autoImplicit false

namespace EntityQuery

variable {ρ α : Type} [ResultTypes ρ]

namespace Specification

@[simp] theorem evaluate_toExpr (spec : Specification ρ α) (get : String → Value) :
    spec.toExpr.evaluate get =
      (spec.criteria.evaluate get && spec.additionalCriteria.all fun e => e.evaluate get) := by
  rw [toExpr, Expr.evaluate_foldl_both]

end Specification

inductive Assembly (ρ α : Type) [ResultTypes ρ] where
  | predicate (leaf : Expr)
  | named (name : String) (leaf : Expr)
  | specification (spec : Specification ρ α)
  | and (left right : Assembly ρ α)
  | or (left right : Assembly ρ α)
  | not (inner : Assembly ρ α)
  -- The methods of finished predicates, and the constructors from lists.
  | andAlso (left right : Assembly ρ α)
  | orAlso (left right : Assembly ρ α)
  | negated (inner : Assembly ρ α)
  | all (members : List (Assembly ρ α))
  | any (members : List (Assembly ρ α))

namespace Assembly

mutual

def build : Assembly ρ α → Composition ρ α
  | predicate e => .predicate e
  | named name e => .named name e
  | specification spec => .specification spec
  | and left right => .and left.build right.build
  | or left right => .or left.build right.build
  | not inner => .not inner.build
  | andAlso left right => .predicate (.both left.build.toExpr right.build.toExpr)
  | orAlso left right => .predicate (.either left.build.toExpr right.build.toExpr)
  | negated inner => .predicate (.negate inner.build.toExpr)
  | all members => .predicate (.all (buildAll members))
  | any members => .predicate (.any (buildAll members))

def buildAll : List (Assembly ρ α) → List Expr
  | [] => []
  | member :: members => member.build.toExpr :: buildAll members

end

mutual

def holds (get : String → Value) : Assembly ρ α → Bool
  | predicate e => e.evaluate get
  | named _ e => e.evaluate get
  | specification spec =>
    spec.criteria.evaluate get && spec.additionalCriteria.all fun e => e.evaluate get
  | and left right => left.holds get && right.holds get
  | or left right => left.holds get || right.holds get
  | not inner => !inner.holds get
  | andAlso left right => left.holds get && right.holds get
  | orAlso left right => left.holds get || right.holds get
  | negated inner => !inner.holds get
  | all members => allHold get members
  | any members => anyHolds get members

def allHold (get : String → Value) : List (Assembly ρ α) → Bool
  | [] => true
  | member :: members => member.holds get && allHold get members

def anyHolds (get : String → Value) : List (Assembly ρ α) → Bool
  | [] => false
  | member :: members => member.holds get || anyHolds get members

end

theorem buildAll_eq_map (members : List (Assembly ρ α)) :
    buildAll members = members.map fun member => member.build.toExpr := by
  induction members with
  | nil => simp [buildAll]
  | cons member members ih => simp [buildAll, ih]

theorem allHold_eq_all (get : String → Value) (members : List (Assembly ρ α)) :
    allHold get members = members.all fun member => member.holds get := by
  induction members with
  | nil => simp [allHold]
  | cons member members ih => simp [allHold, ih]

theorem anyHolds_eq_any (get : String → Value) (members : List (Assembly ρ α)) :
    anyHolds get members = members.any fun member => member.holds get := by
  induction members with
  | nil => simp [anyHolds]
  | cons member members ih => simp [anyHolds, ih]

theorem folding_keeps_truth (t : Assembly ρ α) (get : String → Value) :
    t.build.toExpr.evaluate get = t.holds get := by
  cases t with
  | predicate e | named _ e => simp [build, holds, Composition.toExpr]
  | specification spec => simp [build, holds, Composition.toExpr]
  | and left right | andAlso left right | or left right | orAlso left right =>
    have onLeft := folding_keeps_truth left get
    have onRight := folding_keeps_truth right get
    simp [build, holds, Composition.toExpr, onLeft, onRight]
  | not inner | negated inner =>
    have inside := folding_keeps_truth inner get
    simp [build, holds, Composition.toExpr, inside]
  | all members =>
    have inside : ∀ member ∈ members, member.build.toExpr.evaluate get = member.holds get :=
      fun member _ => folding_keeps_truth member get
    rw [holds, allHold_eq_all, Bool.eq_iff_iff]
    simp +contextual [build, Composition.toExpr, buildAll_eq_map, inside]
  | any members =>
    have inside : ∀ member ∈ members, member.build.toExpr.evaluate get = member.holds get :=
      fun member _ => folding_keeps_truth member get
    rw [holds, anyHolds_eq_any, Bool.eq_iff_iff]
    simp only [build, Composition.toExpr, buildAll_eq_map, Expr.evaluate_any, List.any_map,
      List.any_eq_true, Function.comp_apply]
    exact exists_congr fun member => and_congr_right fun mem => by rw [inside member mem]
termination_by t

end Assembly

end EntityQuery
