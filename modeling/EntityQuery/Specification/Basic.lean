import EntityQuery.Entity
import EntityQuery.Expr.Basic
import EntityQuery.Include.Node
import EntityQuery.Page
import EntityQuery.Sort

set_option autoImplicit false

namespace EntityQuery

inductive TrackingMode where
  | track
  | noTrack
  | noTrackIdentityResolution
  deriving DecidableEq

namespace TrackingMode

def name : TrackingMode → String
  | track => "track"
  | noTrack => "no_track"
  | noTrackIdentityResolution => "no_track_identity_resolution"

def label : TrackingMode → String
  | track => "Track"
  | noTrack => "NoTrack"
  | noTrackIdentityResolution => "NoTrackIdentityResolution"

end TrackingMode

structure Paging where
  skip : Count
  take : Option Count
  deriving DecidableEq

namespace Paging

def page (request : PageRequest) : Paging :=
  ⟨request.skip, some request.take⟩

def pageIndex (p : Paging) : Count :=
  match p.take with
  | some size => if 0 < size then p.skip / size else 0
  | none => 0

end Paging

structure SearchClause where
  term : String
  fields : List String
  deriving DecidableEq

/-- The types that rows may be projected to. Each has a code, and two of them may share a name. -/
class ResultTypes (ρ : Type) where
  [sameCode : DecidableEq ρ]
  Carrier : ρ → Type
  typeName : ρ → String

instance {ρ : Type} [ResultTypes ρ] : DecidableEq ρ :=
  ResultTypes.sameCode

instance : ResultTypes Empty where
  Carrier := nofun
  typeName := nofun

structure Selector (ρ α : Type) [ResultTypes ρ] where
  result : ρ
  project : α → ResultTypes.Carrier result

namespace Selector

variable {ρ α : Type} [ResultTypes ρ]

def projectTo? (s : Selector ρ α) (requested : ρ) :
    Option (α → ResultTypes.Carrier requested) :=
  if h : s.result = requested then some (h ▸ s.project) else none

def toText (s : Selector ρ α) : String :=
  "Selector(-> " ++ ResultTypes.typeName s.result ++ ")"

end Selector

structure Specification (ρ α : Type) [ResultTypes ρ] where
  criteria : Expr
  additionalCriteria : List Expr
  includes : List IncludeNode
  includeChains : List IncludeNode
  includeStrings : List String
  orderings : List SortCriterion
  paging : Option Paging
  limit : Option Count
  groupKey : Option String
  distinct : Bool
  tracking : TrackingMode
  ignoreStoreFilters : Bool
  splitFetch : Bool
  tag : Option String
  search : Option SearchClause
  selector : Option (Selector ρ α)

namespace Specification

variable {ρ α : Type} [ResultTypes ρ]

def all : Specification ρ α where
  criteria := .const true
  additionalCriteria := []
  includes := []
  includeChains := []
  includeStrings := []
  orderings := []
  paging := none
  limit := none
  groupKey := none
  distinct := false
  tracking := .track
  ignoreStoreFilters := false
  splitFetch := false
  tag := none
  search := none
  selector := none

def toExpr (spec : Specification ρ α) : Expr :=
  spec.additionalCriteria.foldl Expr.both spec.criteria

def withoutPaging (spec : Specification ρ α) : Specification ρ α :=
  { spec with paging := none, limit := none }

def withoutSelector (spec : Specification ρ α) : Specification ρ α :=
  { spec with selector := none }

def skip (spec : Specification ρ α) : Option Count :=
  spec.paging.map Paging.skip

def take (spec : Specification ρ α) : Option Count :=
  spec.paging.bind Paging.take

def isPagingEnabled (spec : Specification ρ α) : Bool :=
  spec.take.isSome

def pageIndex (spec : Specification ρ α) : Option Count :=
  spec.paging.map Paging.pageIndex

def pageSize (spec : Specification ρ α) : Option Count :=
  spec.take

def searchTerm (spec : Specification ρ α) : Option String :=
  spec.search.map SearchClause.term

def searchFields (spec : Specification ρ α) : List String :=
  (spec.search.map SearchClause.fields).getD []

end Specification

end EntityQuery
