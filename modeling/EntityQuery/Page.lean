import EntityQuery.Config

set_option autoImplicit false

namespace EntityQuery

structure PageRequest where
  pageIndex : Count := 0
  pageSize : Count := 20
  deriving DecidableEq

namespace PageRequest

def default : PageRequest := {}

def clamped (request : PageRequest) (config : QueryConfig) : PageRequest :=
  { request with
    pageSize :=
      if request.pageSize = 0 then config.defaultPageSize
      else if config.maxPageSize < request.pageSize then config.maxPageSize
      else request.pageSize }

def skip (request : PageRequest) : Count :=
  Count.saturatingMul request.pageIndex request.pageSize

def take (request : PageRequest) : Count :=
  request.pageSize

open Json in
def toJson (request : PageRequest) : Json :=
  object [("pageIndex", ofCount request.pageIndex), ("pageSize", ofCount request.pageSize)]

open Json in
def ofJson? (j : Json) : Option PageRequest := do
  let [index, size] ← j.fields? ["pageIndex", "pageSize"] | none
  return {
    pageIndex := ← optional default.pageIndex asCount? index
    pageSize := ← optional default.pageSize asCount? size }

end PageRequest

structure PageResult (α : Type) where
  items : List α
  pageIndex : Nat
  pageSize : Nat
  totalCount : Nat
  totalPages : Nat

namespace PageResult

variable {α β : Type}

def of (items : List α) (pageIndex pageSize totalCount : Nat) : PageResult α :=
  { items, pageIndex, pageSize, totalCount
    totalPages := if pageSize = 0 then 1 else (totalCount + pageSize - 1) / pageSize }

def hasNext (page : PageResult α) : Bool :=
  page.pageIndex + 1 < page.totalPages

def hasPrevious (page : PageResult α) : Bool :=
  0 < page.pageIndex

def map (f : α → β) (page : PageResult α) : PageResult β :=
  { page with items := page.items.map f }

open Json in
def toJson (item : α → Json) (page : PageResult α) : Json :=
  object [("items", ofList item page.items),
    ("pageIndex", integer page.pageIndex),
    ("pageSize", integer page.pageSize),
    ("totalCount", integer page.totalCount),
    ("totalPages", integer page.totalPages)]

end PageResult

end EntityQuery
