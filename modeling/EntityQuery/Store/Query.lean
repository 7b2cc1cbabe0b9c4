import EntityQuery.Expr.Display
import EntityQuery.Include.Resolve
import EntityQuery.Plan.Basic
import EntityQuery.Store.Rows

set_option autoImplicit false

namespace EntityQuery

structure Query (α : Type) where
  rows : List α
  storeFilter : Option Expr
  fault : Option StoreError
  pipeline : List RowOp
  log : List String
  tracking : TrackingMode
  ignoreStoreFilters : Bool
  splitFetch : Bool
  tags : List String
  includes : List String

inductive Refinement where
  | tracking (mode : TrackingMode)
  | ignoreStoreFilters
  | tag (mark : String)
  | splitFetch
  | filter (e : Expr)
  | includeLink (op : IncludeOp)
  | includePath (path : String)
  | groupBy (key : String)
  | distinct
  | orderBy (c : SortCriterion)
  | thenBy (c : SortCriterion)
  | skip (count : Count)
  | take (count : Count)

namespace Query

variable {ι α : Type}

def start (rows : List α) (storeFilter : Option Expr) (fault : Option StoreError) : Query α :=
  { rows, storeFilter, fault, pipeline := [], log := [], tracking := .track,
    ignoreStoreFilters := false, splitFetch := false, tags := [], includes := [] }

def record (q : Query α) (entry : String) : Query α :=
  { q with log := q.log ++ [entry] }

def andThen (q : Query α) (op : RowOp) (entry : String) : Query α :=
  { q with pipeline := q.pipeline ++ [op] }.record entry

def attach (E : Entity ι α) (q : Query α) (path : String) : Except QueryError (Query α) :=
  match E.schema.resolveRelations? path with
  | some _ => .ok ({ q with includes := q.includes ++ [path] }.record ("include " ++ path))
  | none => .error (.chain (.unresolvedPath path E.name))

def countText (n : Count) : String :=
  String.ofList (Text.digits n.toNat)

def refine (E : Entity ι α) (q : Query α) : Refinement → Except QueryError (Query α)
  | .tracking mode => .ok ({ q with tracking := mode }.record ("tracking " ++ mode.label))
  | .ignoreStoreFilters =>
    .ok ({ q with ignoreStoreFilters := true }.record "ignore store filters")
  | .tag mark => .ok ({ q with tags := q.tags ++ [mark] }.record ("tag " ++ mark))
  | .splitFetch => .ok ({ q with splitFetch := true }.record "split fetch")
  | .filter e => .ok (q.andThen (.filter e) ("filter " ++ e.toText))
  | .includeLink op => q.attach E op.navigation
  | .includePath path => q.attach E path
  | .groupBy key => .ok (q.andThen (.groupBy key) ("group by " ++ key))
  | .distinct => .ok (q.andThen .distinct "distinct")
  | .orderBy c => .ok (q.andThen (.orderBy c) ("order by " ++ c.toText))
  | .thenBy c => .ok (q.andThen (.thenBy c) ("then by " ++ c.toText))
  | .skip count => .ok (q.andThen (.skip count) ("skip " ++ countText count))
  | .take count => .ok (q.andThen (.take count) ("take " ++ countText count))

def refineAll (E : Entity ι α) (q : Query α) (rs : List Refinement) :
    Except QueryError (Query α) :=
  rs.foldlM (refine E) q

def visibleRows (E : Entity ι α) (q : Query α) : List α :=
  match q.storeFilter with
  | some e => if q.ignoreStoreFilters then q.rows else q.rows.filter (E.satisfies e)
  | none => q.rows

def execute (E : Entity ι α) (q : Query α) (cancelled : Bool) : Except StoreError (List α) :=
  if cancelled then .error .cancelled
  else match q.fault with
    | some fault => .error fault
    | none => .ok (RowOp.run E [] q.pipeline (q.visibleRows E))

def settles (E : Entity ι α) (q : Query α) (cancelled : Bool) : Bool :=
  match q.execute E cancelled with
  | .ok _ => RowOp.settles E [] q.pipeline (q.visibleRows E)
  | .error _ => true

def firstOnly (q : Query α) : Query α :=
  q.andThen (.take 1) ("take " ++ countText 1)

def toList (E : Entity ι α) (q : Query α) (cancelled : Bool) : Except StoreError (List α) :=
  q.execute E cancelled

def first (E : Entity ι α) (q : Query α) (cancelled : Bool) : Except StoreError (Option α) :=
  (q.firstOnly.execute E cancelled).map List.head?

def count (E : Entity ι α) (q : Query α) (cancelled : Bool) : Except StoreError Nat :=
  (q.execute E cancelled).map List.length

def any (E : Entity ι α) (q : Query α) (cancelled : Bool) : Except StoreError Bool :=
  (q.firstOnly.execute E cancelled).map fun rows => !rows.isEmpty

end Query

namespace PlanOp

def refinement : PlanOp → Refinement
  | tracking mode => .tracking mode
  | ignoreStoreFilters => .ignoreStoreFilters
  | tag mark => .tag mark
  | splitFetch => .splitFetch
  | filter e => .filter e
  | criteria e => .filter e
  | search e => .filter e
  | includeLink op => .includeLink op
  | includeChainLink op => .includeLink op
  | includePath path => .includePath path
  | groupBy key => .groupBy key
  | distinct => .distinct
  | orderBy c => .orderBy c
  | thenBy c => .thenBy c
  | skip count => .skip count
  | take count => .take count
  | limit count => .take count

end PlanOp

def Plan.apply {ι α : Type} (E : Entity ι α) (plan : Plan) (q : Query α) :
    Except QueryError (Query α) :=
  q.refineAll E (plan.map PlanOp.refinement)

end EntityQuery
