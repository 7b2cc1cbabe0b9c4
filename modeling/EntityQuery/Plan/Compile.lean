import EntityQuery.Plan.Basic

set_option autoImplicit false

namespace EntityQuery

def onlyIf (asked : Bool) (op : PlanOp) : Plan :=
  if asked then [op] else []

namespace SearchClause

def toExpr (s : SearchClause) : Expr :=
  if Text.isBlankText s.term || s.fields.isEmpty then .const true
  else .any (s.fields.map fun f => .text f .contains (Text.trim s.term))

end SearchClause

namespace Specification

variable {ρ α : Type} [ResultTypes ρ]

def hints (spec : Specification ρ α) : Plan :=
  onlyIf (spec.tracking ≠ .track) (.tracking spec.tracking) ++
    onlyIf spec.ignoreStoreFilters .ignoreStoreFilters ++
    spec.tag.toList.map PlanOp.tag ++
    onlyIf spec.splitFetch .splitFetch

def searchExpr (spec : Specification ρ α) : Expr :=
  match spec.search with
  | some s => s.toExpr
  | none => .const true

def predicates (spec : Specification ρ α) : Plan :=
  let additional := Expr.all spec.additionalCriteria
  onlyIf (!spec.criteria.isTrue) (.filter spec.criteria) ++
    onlyIf (!additional.isTrue) (.criteria additional) ++
    onlyIf (!spec.searchExpr.isTrue) (.search spec.searchExpr)

def singleIncludes : List IncludeNode → Except ChainError Plan
  | [] => .ok []
  | node :: nodes => do
    let op ← node.resolve
    let rest ← singleIncludes nodes
    return .includeLink op :: rest

def chainIncludes : List IncludeNode → Except ChainError Plan
  | [] => .ok []
  | node :: nodes => do
    let ops ← node.resolveChain
    let rest ← chainIncludes nodes
    return ops.map PlanOp.includeChainLink ++ rest

def includeOps (spec : Specification ρ α) : Except ChainError Plan := do
  let single ← singleIncludes spec.includes
  let chained ← chainIncludes spec.includeChains
  return single ++ chained ++ spec.includeStrings.map PlanOp.includePath

def shape (spec : Specification ρ α) : Plan :=
  spec.groupKey.toList.map PlanOp.groupBy ++ onlyIf spec.distinct .distinct

def orderingOps (spec : Specification ρ α) : Plan :=
  match spec.orderings with
  | [] => []
  | primary :: rest => .orderBy primary :: rest.map PlanOp.thenBy

def windowOps (spec : Specification ρ α) : Plan :=
  let skip := (spec.skip).getD 0
  onlyIf (0 < skip) (.skip skip) ++
    -- A window without an end still leaves the limit in force.
    match spec.take, spec.limit with
    | some size, _ => [.take size]
    | none, some limit => [.limit limit]
    | none, none => []

def compile (spec : Specification ρ α) : Except QueryError Plan :=
  match spec.includeOps with
  | .ok includes =>
    .ok (spec.hints ++ spec.predicates ++ includes ++ spec.shape ++ spec.orderingOps ++
      spec.windowOps)
  | .error e => .error (.chain e)

end Specification

end EntityQuery
