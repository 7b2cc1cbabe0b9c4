import EntityQuery.Filter.Operator
import EntityQuery.Sort

set_option autoImplicit false

namespace EntityQuery

structure FilterItem where
  field : String
  operator : String
  value : Option String
  deriving DecidableEq

namespace FilterItem

def of (field : String) (operator : FilterOperator) (value : String) : FilterItem :=
  ⟨field, operator.name, some value⟩

def valueless (field : String) (operator : FilterOperator) : FilterItem :=
  ⟨field, operator.name, none⟩

def equals (field value : String) : FilterItem :=
  of field .equals value

def contains (field value : String) : FilterItem :=
  of field .contains value

def isNull (field : String) : FilterItem :=
  valueless field .isNull

def oneOf (field : String) (values : List String) : FilterItem :=
  of field .oneOf (Text.join "," values)

open Json in
def toJson (item : FilterItem) : Json :=
  object ([("field", string item.field), ("operator", string item.operator)] ++
    match item.value with
    | some v => [("value", string v)]
    | none => [])

open Json in
def ofJson? (j : Json) : Option FilterItem := do
  let [field, operator, value] ← j.fields? ["field", "operator", "value"] | none
  return ⟨← required asString? field, ← required asString? operator,
    ← optional none (asOption? asString?) value⟩

end FilterItem

inductive FilterLogic where
  | and
  | or
  deriving DecidableEq

namespace FilterLogic

def name : FilterLogic → String
  | and => "and"
  | or => "or"

def ofJson? : Json → Option FilterLogic :=
  Json.asName? [("and", and), ("AND", and), ("And", and), ("or", or), ("OR", or), ("Or", or)]

end FilterLogic

structure FilterGroup where
  logic : FilterLogic
  items : List FilterItem
  deriving DecidableEq

namespace FilterGroup

open Json

def toJson (group : FilterGroup) : Json :=
  object [("logic", string group.logic.name), ("items", ofList FilterItem.toJson group.items)]

def ofJson? (j : Json) : Option FilterGroup := do
  let [logic, items] ← j.fields? ["logic", "items"] | none
  return ⟨← optional .and FilterLogic.ofJson? logic,
    ← optional [] (asList? FilterItem.ofJson?) items⟩

end FilterGroup

structure FilterModel where
  searchTerm : Option String
  items : List FilterItem
  groups : List FilterGroup
  sorts : List SortItem
  deriving DecidableEq

namespace FilterModel

def empty : FilterModel := ⟨none, [], [], []⟩

def search (model : FilterModel) (term : String) : FilterModel :=
  { model with searchTerm := some term }

def withItem (model : FilterModel) (item : FilterItem) : FilterModel :=
  { model with items := model.items ++ [item] }

def whereField (model : FilterModel) (field : String) (operator : FilterOperator)
    (value : String) : FilterModel :=
  model.withItem (.of field operator value)

def withGroup (model : FilterModel) (group : FilterGroup) : FilterModel :=
  { model with groups := model.groups ++ [group] }

def sortBy (model : FilterModel) (field : String) (direction : SortDirection) : FilterModel :=
  { model with sorts := model.sorts ++ [⟨field, direction⟩] }

def isEmpty (model : FilterModel) : Bool :=
  model.items.isEmpty && model.groups.all (fun g => g.items.isEmpty) &&
    match model.searchTerm with
    | some term => Text.isBlankText term
    | none => true

def itemCount (model : FilterModel) : Nat :=
  model.items.length + (model.groups.flatMap FilterGroup.items).length

open Json in
def toJson (model : FilterModel) : Json :=
  object ((match model.searchTerm with
    | some term => [("searchTerm", string term)]
    | none => []) ++
    [("items", ofList FilterItem.toJson model.items),
      ("groups", ofList FilterGroup.toJson model.groups),
      ("sorts", ofList SortItem.toJson model.sorts)])

open Json in
def ofJson? (j : Json) : Option FilterModel := do
  let [term, items, groups, sorts] ← j.fields? ["searchTerm", "items", "groups", "sorts"] | none
  return ⟨← optional none (asOption? asString?) term,
    ← optional [] (asList? FilterItem.ofJson?) items,
    ← optional [] (asList? FilterGroup.ofJson?) groups,
    ← optional [] (asList? SortItem.ofJson?) sorts⟩

end FilterModel

end EntityQuery
