import EntityQuery.Plan.Compile
import EntityQuery.Specification.Builder
import EntityQuery.Store.Memory

set_option autoImplicit false

namespace EntityQuery

structure Repository (ι α : Type) where
  entity : Entity ι α
  store : Store α
  config : QueryConfig

namespace Repository

variable {ι ρ α : Type} [ResultTypes ρ] (r : Repository ι α)

def prepare (spec : Specification ρ α) : Except QueryError (Query α) := do
  let plan ← spec.compile
  plan.apply r.entity r.store.query

def ofStore {β : Type} (result : Except StoreError β) : Except QueryError β :=
  result.mapError .store

def findMany (spec : Specification ρ α) (cancelled : Bool) : Except QueryError (List α) := do
  let q ← r.prepare spec
  ofStore (q.toList r.entity cancelled)

def findOne (spec : Specification ρ α) (cancelled : Bool) : Except QueryError (Option α) := do
  let q ← r.prepare spec
  ofStore (q.first r.entity cancelled)

def any (spec : Specification ρ α) (cancelled : Bool) : Except QueryError Bool := do
  let q ← r.prepare spec.withoutPaging
  ofStore (q.any r.entity cancelled)

def count (spec : Specification ρ α) (cancelled : Bool) : Except QueryError Nat := do
  let q ← r.prepare spec.withoutPaging
  ofStore (q.count r.entity cancelled)

def findPaged (spec : Specification ρ α) (cancelled : Bool) :
    Except QueryError (PageResult α) := do
  let some pageSize := spec.pageSize | throw .pagingNotEnabled
  -- The total is that of the whole result, the items those of the window.
  let total ← r.count spec cancelled
  let items ← r.findMany spec cancelled
  let pageIndex := spec.pageIndex.getD 0
  return .of items pageIndex.toNat pageSize.toNat total

def findProjected (spec : Specification ρ α) (requested : ρ) (cancelled : Bool) :
    Except QueryError (List (ResultTypes.Carrier requested)) := do
  let some selector := spec.selector | throw .missingProjection
  let some project := selector.projectTo? requested
    | throw (.projectionMismatch (ResultTypes.typeName selector.result)
        (ResultTypes.typeName requested))
  let rows ← r.findMany spec cancelled
  return rows.map project

def filtered (model : FilterModel) : Except QueryError (Builder ι Empty α) :=
  (Builder.start r.entity.schema).applyFilterModel model r.config

def findByFilter (model : FilterModel) (request : Option PageRequest) (cancelled : Bool) :
    Except QueryError (PageResult α) := do
  let b ← r.filtered model
  match request with
  | some request =>
    -- A clamped page has a size, unless the configuration itself has none.
    let spec ← (b.page (request.clamped r.config)).build
    r.findPaged spec cancelled
  | none =>
    let spec ← b.build
    let items ← r.findMany spec cancelled
    return .of items 0 items.length items.length

def matching (c : Composition ρ α) : Except QueryError (Specification ρ α) :=
  ((Builder.start r.entity.schema).whereComposition c).build

def findMatching (c : Composition ρ α) (cancelled : Bool) : Except QueryError (List α) := do
  let spec ← r.matching c
  r.findMany spec cancelled

def countMatching (c : Composition ρ α) (cancelled : Bool) : Except QueryError Nat := do
  let spec ← r.matching c
  r.count spec cancelled

end Repository

end EntityQuery
