import EntityQuery.Expr.Display
import EntityQuery.Include.Resolve
import EntityQuery.Specification.Basic
import EntityQuery.Text.Quoted

set_option autoImplicit false

namespace EntityQuery

inductive PlanOp where
  | tracking (mode : TrackingMode)
  | ignoreStoreFilters
  | tag (mark : String)
  | splitFetch
  | filter (e : Expr)
  | criteria (e : Expr)
  | search (e : Expr)
  | includeLink (op : IncludeOp)
  | includeChainLink (op : IncludeOp)
  | includePath (path : String)
  | groupBy (key : String)
  | distinct
  | orderBy (c : SortCriterion)
  | thenBy (c : SortCriterion)
  | skip (count : Count)
  | take (count : Count)
  | limit (count : Count)

namespace PlanOp

def step : PlanOp → Nat
  | tracking _ => 1
  | ignoreStoreFilters => 2
  | tag _ => 3
  | splitFetch => 4
  | filter _ => 5
  | criteria _ => 6
  | search _ => 7
  | includeLink _ => 8
  | includeChainLink _ => 9
  | includePath _ => 10
  | groupBy _ => 11
  | distinct => 12
  | orderBy _ => 13
  | thenBy _ => 13
  | skip _ => 14
  | take _ => 14
  | limit _ => 14

def name : PlanOp → String
  | tracking _ => "tracking"
  | ignoreStoreFilters => "ignore_store_filters"
  | tag _ => "tag"
  | splitFetch => "split_fetch"
  | filter _ => "filter"
  | criteria _ => "criteria"
  | search _ => "search"
  | includeLink _ => "include"
  | includeChainLink _ => "chain_include"
  | includePath _ => "include_path"
  | groupBy _ => "group_by"
  | distinct => "distinct"
  | orderBy _ => "order_by"
  | thenBy _ => "then_by"
  | skip _ => "skip"
  | take _ => "take"
  | limit _ => "limit"

def argument? : PlanOp → Option String
  | tracking mode => some mode.label
  | ignoreStoreFilters => none
  | tag mark => some (Text.quoted mark)
  | splitFetch => none
  | filter e => some e.toText
  | criteria e => some e.toText
  | search e => some e.toText
  | includeLink op => some op.navigation
  | includeChainLink op => some op.navigation
  | includePath path => some path
  | groupBy key => some key
  | distinct => none
  | orderBy c => some c.toText
  | thenBy c => some c.toText
  | skip count => some (String.ofList (Text.digits count.toNat))
  | take count => some (String.ofList (Text.digits count.toNat))
  | limit count => some (String.ofList (Text.digits count.toNat))

def toText (op : PlanOp) : String :=
  match op.argument? with
  | some argument => op.name ++ " " ++ argument
  | none => op.name

def includeOp? : PlanOp → Option IncludeOp
  | includeLink op => some op
  | includeChainLink op => some op
  | _ => none

end PlanOp

abbrev Plan := List PlanOp

def Plan.toText (plan : Plan) : String :=
  "[" ++ Text.join ", " (plan.map fun op => "QueryOp(" ++ op.toText ++ ")") ++ "]"

end EntityQuery
