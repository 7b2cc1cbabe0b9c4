import EntityQuery.Expr.Json
import EntityQuery.Specification.Basic

set_option autoImplicit false

namespace EntityQuery

open Json

def TrackingMode.ofJson? : Json → Option TrackingMode :=
  asName? ([TrackingMode.track, .noTrack, .noTrackIdentityResolution].map fun m => (m.name, m))

namespace Paging

def toJson (p : Paging) : Json :=
  object (("skip", ofCount p.skip) ::
    match p.take with
    | some n => [("take", ofCount n)]
    | none => [])

def ofJson? (j : Json) : Option Paging := do
  let [skip, take] ← j.fields? ["skip", "take"] | none
  return ⟨← required asCount? skip, ← optional none (asOption? asCount?) take⟩

end Paging

namespace SearchClause

def toJson (s : SearchClause) : Json :=
  object [("term", string s.term), ("fields", ofList string s.fields)]

def ofJson? (j : Json) : Option SearchClause := do
  let [term, fields] ← j.fields? ["term", "fields"] | none
  return ⟨← required asString? term, ← required (asList? asString?) fields⟩

end SearchClause

namespace Specification

variable {ρ α : Type} [ResultTypes ρ]

def toJson (spec : Specification ρ α) : Json :=
  object [("criteria", spec.criteria.toJson),
    ("additionalCriteria", ofList Expr.toJson spec.additionalCriteria),
    ("includes", ofList IncludeNode.toJson spec.includes),
    ("includeChains", ofList IncludeNode.toJson spec.includeChains),
    ("includeStrings", ofList string spec.includeStrings),
    ("orderings", ofList SortCriterion.toJson spec.orderings),
    ("paging", ofOption Paging.toJson spec.paging),
    ("limit", ofOption ofCount spec.limit),
    ("groupKey", ofOption string spec.groupKey),
    ("distinct", bool spec.distinct),
    ("tracking", string spec.tracking.name),
    ("ignoreStoreFilters", bool spec.ignoreStoreFilters),
    ("splitFetch", bool spec.splitFetch),
    ("tag", ofOption string spec.tag),
    ("search", ofOption SearchClause.toJson spec.search)]

def fieldNames : List String :=
  ["criteria", "additionalCriteria", "includes", "includeChains", "includeStrings", "orderings",
    "paging", "limit", "groupKey", "distinct", "tracking", "ignoreStoreFilters", "splitFetch",
    "tag", "search"]

def ofJson? (j : Json) : Option (Specification ρ α) := do
  let [criteria, additionalCriteria, includes, includeChains, includeStrings, orderings, paging,
    limit, groupKey, distinct, tracking, ignoreStoreFilters, splitFetch, tag, search] ←
      j.fields? fieldNames | none
  return {
    criteria := ← optional (.const true) Expr.ofJson? criteria
    additionalCriteria := ← optional [] (asList? Expr.ofJson?) additionalCriteria
    includes := ← optional [] (asList? IncludeNode.ofJson?) includes
    includeChains := ← optional [] (asList? IncludeNode.ofJson?) includeChains
    includeStrings := ← optional [] (asList? asString?) includeStrings
    orderings := ← optional [] (asList? SortCriterion.ofJson?) orderings
    paging := ← optional none (asOption? Paging.ofJson?) paging
    limit := ← optional none (asOption? asCount?) limit
    groupKey := ← optional none (asOption? asString?) groupKey
    distinct := ← optional false asBool? distinct
    tracking := ← optional .track TrackingMode.ofJson? tracking
    ignoreStoreFilters := ← optional false asBool? ignoreStoreFilters
    splitFetch := ← optional false asBool? splitFetch
    tag := ← optional none (asOption? asString?) tag
    search := ← optional none (asOption? SearchClause.ofJson?) search
    selector := none }

end Specification

end EntityQuery
