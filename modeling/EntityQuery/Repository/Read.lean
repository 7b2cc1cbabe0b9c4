import EntityQuery.Repository

set_option autoImplicit false

namespace EntityQuery.Repository

variable {ι ρ α : Type} [ResultTypes ρ] (r : Repository ι α)

inductive Read (ρ : Type) where
  | findMany
  | findOne
  | any
  | count
  | findPaged
  | findProjected (requested : ρ)

def Read.Answer (α : Type) : Read ρ → Type
  | findMany => List α
  | findOne => Option α
  | any => Bool
  | count => Nat
  | findPaged => PageResult α
  | findProjected requested => List (ResultTypes.Carrier requested)

def Read.run (spec : Specification ρ α) (cancelled : Bool) :
    (read : Read ρ) → Except QueryError (read.Answer α)
  | findMany => r.findMany spec cancelled
  | findOne => r.findOne spec cancelled
  | any => r.any spec cancelled
  | count => r.count spec cancelled
  | findPaged => r.findPaged spec cancelled
  | findProjected requested => r.findProjected spec requested cancelled

def settles (spec : Specification ρ α) (cancelled : Bool) (cut : Query α → Query α) : Bool :=
  match r.prepare spec with
  | .ok q => (cut q).settles r.entity cancelled
  | .error _ => true

def Read.settles (spec : Specification ρ α) (cancelled : Bool) : Read ρ → Bool
  | findMany => r.settles spec cancelled id
  | findOne => r.settles spec cancelled Query.firstOnly
  | any => r.settles spec.withoutPaging cancelled Query.firstOnly
  | count => r.settles spec.withoutPaging cancelled id
  | findPaged => spec.pageSize.isNone ||
      (r.settles spec.withoutPaging cancelled id && r.settles spec cancelled id)
  | findProjected requested =>
    (spec.selector.bind fun selector => selector.projectTo? requested).isNone ||
      r.settles spec cancelled id

def Read.outcome (spec : Specification ρ α) (cancelled : Bool) (read : Read ρ) :
    Outcome (Except QueryError (read.Answer α)) :=
  .of (read.settles r spec cancelled) (read.run r spec cancelled)

def filterSpec (model : FilterModel) (request : Option PageRequest) :
    Except QueryError (Specification Empty α) := do
  let b ← r.filtered model
  match request with
  | some request => (b.page (request.clamped r.config)).build
  | none => b.build

def filterSettles (model : FilterModel) (request : Option PageRequest) (cancelled : Bool) : Bool :=
  match r.filterSpec model request with
  | .ok spec =>
    let read : Read Empty := if request.isSome then .findPaged else .findMany
    read.settles r spec cancelled
  | .error _ => true

def filterOutcome (model : FilterModel) (request : Option PageRequest) (cancelled : Bool) :
    Outcome (Except QueryError (PageResult α)) :=
  .of (r.filterSettles model request cancelled) (r.findByFilter model request cancelled)

end EntityQuery.Repository
