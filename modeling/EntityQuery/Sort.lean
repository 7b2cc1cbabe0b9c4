import EntityQuery.Json.Basic
import EntityQuery.Text.Lowercase

set_option autoImplicit false

namespace EntityQuery

inductive SortDirection where
  | ascending
  | descending
  deriving DecidableEq

namespace SortDirection

def read? (s : String) : Option SortDirection :=
  match Text.lower s with
  | "asc" | "ascending" => some ascending
  | "desc" | "descending" => some descending
  | _ => none

def shortName : SortDirection → String
  | ascending => "asc"
  | descending => "desc"

def name : SortDirection → String
  | ascending => "ascending"
  | descending => "descending"

def reverse : SortDirection → SortDirection
  | ascending => descending
  | descending => ascending

def isAscending : SortDirection → Bool
  | ascending => true
  | descending => false

def apply : SortDirection → Ordering → Ordering
  | ascending, o => o
  | descending, o => o.swap

def toJson (d : SortDirection) : Json :=
  .string d.name

def ofJson? : Json → Option SortDirection :=
  Json.asName? [("ascending", ascending), ("asc", ascending), ("Ascending", ascending),
    ("ASC", ascending), ("descending", descending), ("desc", descending),
    ("Descending", descending), ("DESC", descending)]

end SortDirection

structure SortItem where
  field : String
  direction : SortDirection
  deriving DecidableEq

namespace SortItem

open Json

def toJson (s : SortItem) : Json :=
  object [("field", string s.field), ("direction", s.direction.toJson)]

def ofJson? (j : Json) : Option SortItem := do
  let [field, direction] ← j.fields? ["field", "direction"] | none
  return ⟨← required asString? field, ← optional .ascending SortDirection.ofJson? direction⟩

end SortItem

structure SortCriterion where
  field : String
  direction : SortDirection
  deriving DecidableEq

namespace SortCriterion

open Json

def reversed (c : SortCriterion) : SortCriterion :=
  { c with direction := c.direction.reverse }

def toText (c : SortCriterion) : String :=
  c.field ++ " " ++ c.direction.shortName

def toJson (c : SortCriterion) : Json :=
  object [("field", string c.field), ("direction", c.direction.toJson)]

def ofJson? (j : Json) : Option SortCriterion := do
  let [field, direction] ← j.fields? ["field", "direction"] | none
  return ⟨← required asString? field, ← required SortDirection.ofJson? direction⟩

end SortCriterion

end EntityQuery
