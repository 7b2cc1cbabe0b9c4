import EntityQuery.Composition
import EntityQuery.Expr.Canonical
import EntityQuery.Filter.Compile
import EntityQuery.Include.Relation

set_option autoImplicit false

namespace EntityQuery

structure Builder (ι ρ α : Type) [ResultTypes ρ] where
  schema : Schema ι
  spec : Specification ρ α
  errors : ValidationErrors
  ordered : Bool

namespace Builder

variable {ι ρ α : Type} [ResultTypes ρ]

def start (schema : Schema ι) : Builder ι ρ α :=
  ⟨schema, .all, .empty, false⟩

def addError (b : Builder ι ρ α) (field message : String) : Builder ι ρ α :=
  { b with errors := b.errors.add field message }

def addBaseError (b : Builder ι ρ α) (message : String) : Builder ι ρ α :=
  { b with errors := b.errors.addBase message }

def addUnknownField (b : Builder ι ρ α) (field : String) : Builder ι ρ α :=
  b.addError field ("is not a field of " ++ b.schema.name)

/-- The expression in declared spelling. If some field is unknown the expression is kept as given,
and every unknown field is an error. -/
def check (b : Builder ι ρ α) (e : Expr) : Builder ι ρ α × Expr :=
  match e.canonicalize b.schema with
  | .ok e => (b, e)
  | .error unknown => (unknown.foldl addUnknownField b, e)

def whereExpr (b : Builder ι ρ α) (e : Expr) : Builder ι ρ α :=
  let (b, e) := b.check e
  { b with spec := { b.spec with criteria := e } }

def whereComposition (b : Builder ι ρ α) (c : Composition ρ α) : Builder ι ρ α :=
  b.whereExpr c.toExpr

def andWhere (b : Builder ι ρ α) (e : Expr) : Builder ι ρ α :=
  let (b, e) := b.check e
  { b with spec := { b.spec with additionalCriteria := b.spec.additionalCriteria ++ [e] } }

def includeRelation (b : Builder ι ρ α) (r : Relation ι) : Builder ι ρ α :=
  let b :=
    if r.isDeclared b.schema then b
    else b.addError "include" (r.name ++ " is not a navigation of " ++ b.schema.name)
  { b with spec := { b.spec with includes := b.spec.includes ++ [r.toNode b.schema] } }

def includeChain (b : Builder ι ρ α) (chain : Chain ι) : Builder ι ρ α :=
  let b := (chain.undeclared b.schema).foldl
    (fun b link => b.addError "include" (link ++ " is not a declared navigation")) b
  { b with
    spec := { b.spec with includeChains := b.spec.includeChains ++ [chain.toNode b.schema] } }

def includePath (b : Builder ι ρ α) (path : String) : Builder ι ρ α :=
  match b.schema.resolveRelations? path with
  | some links =>
    let declared := Text.join "." (links.map RelationDescriptor.name)
    { b with spec := { b.spec with includeStrings := b.spec.includeStrings ++ [declared] } }
  | none =>
    b.addError "include" (path ++ " is not a navigation path of " ++ b.schema.name)

def pushOrdering (b : Builder ι ρ α) (field : String) (direction : SortDirection) : Builder ι ρ α :=
  match b.schema.canonicalPath? field with
  | some path =>
    { b with spec := { b.spec with orderings := b.spec.orderings ++ [⟨path, direction⟩] } }
  | none => b.addUnknownField field

def orderBy (b : Builder ι ρ α) (field : String) (direction : SortDirection) : Builder ι ρ α :=
  let b :=
    if b.ordered then
      b.addBaseError "order_by may only be used once; use then_by for further keys"
    else b
  -- An unknown field counts as the primary key too; further keys are then no fault of their own.
  pushOrdering { b with ordered := true } field direction

def thenBy (b : Builder ι ρ α) (field : String) (direction : SortDirection) : Builder ι ρ α :=
  let b := if b.ordered then b else b.addBaseError "then_by requires a preceding order_by"
  b.pushOrdering field direction

def paginate (b : Builder ι ρ α) (pageIndex pageSize : Count) : Builder ι ρ α :=
  if pageSize = 0 then b.addError "page_size" "must be greater than zero"
  else { b with spec := { b.spec with paging := some (.page ⟨pageIndex, pageSize⟩) } }

def page (b : Builder ι ρ α) (request : PageRequest) : Builder ι ρ α :=
  b.paginate request.pageIndex request.pageSize

def window (b : Builder ι ρ α) : Paging :=
  b.spec.paging.getD ⟨0, none⟩

def skip (b : Builder ι ρ α) (count : Count) : Builder ι ρ α :=
  { b with spec := { b.spec with paging := some { b.window with skip := count } } }

def take (b : Builder ι ρ α) (count : Count) : Builder ι ρ α :=
  if count = 0 then b.addError "take" "must be greater than zero"
  else { b with spec := { b.spec with paging := some { b.window with take := some count } } }

def limit (b : Builder ι ρ α) (count : Count) : Builder ι ρ α :=
  if count = 0 then b.addError "limit" "must be greater than zero"
  else { b with spec := { b.spec with limit := some count } }

def groupBy (b : Builder ι ρ α) (field : String) : Builder ι ρ α :=
  match b.schema.canonicalPath? field with
  | some path => { b with spec := { b.spec with groupKey := some path } }
  | none => b.addUnknownField field

def distinct (b : Builder ι ρ α) : Builder ι ρ α :=
  { b with spec := { b.spec with distinct := true } }

def tracking (b : Builder ι ρ α) (mode : TrackingMode) : Builder ι ρ α :=
  { b with spec := { b.spec with tracking := mode } }

def ignoreStoreFilters (b : Builder ι ρ α) : Builder ι ρ α :=
  { b with spec := { b.spec with ignoreStoreFilters := true } }

def splitFetch (b : Builder ι ρ α) : Builder ι ρ α :=
  { b with spec := { b.spec with splitFetch := true } }

def tag (b : Builder ι ρ α) (tag : String) : Builder ι ρ α :=
  if Text.isBlankText tag then b.addError "tag" "must not be blank"
  else { b with spec := { b.spec with tag := some tag } }

def searchFields (b : Builder ι ρ α) : List String → Builder ι ρ α × List String
  | [] => (b, [])
  | field :: rest =>
    match b.schema.resolvePath? field with
    | some r =>
      if r.descriptor.type.isString then
        let (b, paths) := b.searchFields rest
        (b, r.path :: paths)
      else
        (b.addError r.path "is not a string field and cannot be searched").searchFields rest
    | none => (b.addUnknownField field).searchFields rest

def search (b : Builder ι ρ α) (term : String) (fields : List String) : Builder ι ρ α :=
  let term := Text.trim term
  if Text.isBlankText term then { b with spec := { b.spec with search := none } }
  else
    let (b, paths) :=
      if fields.isEmpty then (b, b.schema.stringFields) else b.searchFields fields
    { b with spec := { b.spec with search := some ⟨term, paths⟩ } }

def select (b : Builder ι ρ α) (selector : Selector ρ α) : Builder ι ρ α :=
  { b with spec := { b.spec with selector := some selector } }

def applyFilterModel (b : Builder ι ρ α) (model : FilterModel) (config : QueryConfig) :
    Except QueryError (Builder ι ρ α) := do
  let compiler : FilterCompiler ι := ⟨b.schema, config⟩
  let e ← compiler.compile model
  let sorts := compiler.compileSorts model.sorts
  let criteria :=
    if e.isTrue then b.spec.additionalCriteria else b.spec.additionalCriteria ++ [e]
  return { b with
    spec := { b.spec with
      additionalCriteria := criteria
      orderings := b.spec.orderings ++ sorts }
    ordered := b.ordered || !sorts.isEmpty }

def build (b : Builder ι ρ α) : Except QueryError (Specification ρ α) :=
  if b.errors.isEmpty then .ok b.spec else .error (.invalidSpecification b.errors)

end Builder

inductive BuildStep (ι ρ α : Type) [ResultTypes ρ] where
  | whereExpr (e : Expr)
  | whereComposition (c : Composition ρ α)
  | andWhere (e : Expr)
  | includeRelation (r : Relation ι)
  | includeChain (chain : Chain ι)
  | includePath (path : String)
  | orderBy (field : String) (direction : SortDirection)
  | thenBy (field : String) (direction : SortDirection)
  | paginate (pageIndex pageSize : Count)
  | page (request : PageRequest)
  | skip (count : Count)
  | take (count : Count)
  | limit (count : Count)
  | groupBy (field : String)
  | distinct
  | tracking (mode : TrackingMode)
  | ignoreStoreFilters
  | splitFetch
  | tag (tag : String)
  | search (term : String) (fields : List String)
  | select (selector : Selector ρ α)
  | applyFilterModel (model : FilterModel) (config : QueryConfig)

namespace Builder

variable {ι ρ α : Type} [ResultTypes ρ]

def step (b : Builder ι ρ α) : BuildStep ι ρ α → Except QueryError (Builder ι ρ α)
  | .whereExpr e => .ok (b.whereExpr e)
  | .whereComposition c => .ok (b.whereComposition c)
  | .andWhere e => .ok (b.andWhere e)
  | .includeRelation r => .ok (b.includeRelation r)
  | .includeChain chain => .ok (b.includeChain chain)
  | .includePath path => .ok (b.includePath path)
  | .orderBy field direction => .ok (b.orderBy field direction)
  | .thenBy field direction => .ok (b.thenBy field direction)
  | .paginate pageIndex pageSize => .ok (b.paginate pageIndex pageSize)
  | .page request => .ok (b.page request)
  | .skip count => .ok (b.skip count)
  | .take count => .ok (b.take count)
  | .limit count => .ok (b.limit count)
  | .groupBy field => .ok (b.groupBy field)
  | .distinct => .ok b.distinct
  | .tracking mode => .ok (b.tracking mode)
  | .ignoreStoreFilters => .ok b.ignoreStoreFilters
  | .splitFetch => .ok b.splitFetch
  | .tag tag => .ok (b.tag tag)
  | .search term fields => .ok (b.search term fields)
  | .select selector => .ok (b.select selector)
  | .applyFilterModel model config => b.applyFilterModel model config

def run (b : Builder ι ρ α) (steps : List (BuildStep ι ρ α)) : Except QueryError (Builder ι ρ α) :=
  steps.foldlM step b

end Builder

end EntityQuery
