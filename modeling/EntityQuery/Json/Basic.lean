import EntityQuery.Binary64.Rounding
import EntityQuery.Text.Numeral

set_option autoImplicit false

namespace EntityQuery

inductive Json where
  | null
  | bool (b : Bool)
  | integer (n : Int)
  | float (x : Binary64)
  | string (s : String)
  | array (items : List Json)
  | object (members : List (String × Json))

namespace Json

mutual

def depth : Json → Nat
  | array items => depthOfItems items + 1
  | object members => depthOfMembers members + 1
  | _ => 1

def depthOfItems : List Json → Nat
  | [] => 0
  | j :: js => max j.depth (depthOfItems js)

def depthOfMembers : List (String × Json) → Nat
  | [] => 0
  | (_, j) :: ms => max j.depth (depthOfMembers ms)

end

def lookup (name : String) : List (String × Json) → Option Json
  | [] => none
  | (key, j) :: ms => if key = name then some j else lookup name ms

def put (name : String) (j : Json) : List (String × Json) → List (String × Json)
  | [] => [(name, j)]
  | (key, k) :: ms => if key = name then (key, j) :: ms else (key, k) :: put name j ms

def member? (name : String) : Json → Option Json
  | object members => lookup name members
  | _ => none

def asString? : Json → Option String
  | string s => some s
  | _ => none

def asBool? : Json → Option Bool
  | bool b => some b
  | _ => none

def asInt64? : Json → Option Int64
  | integer n => int64? n
  | _ => none

def asCount? : Json → Option Count
  | integer n => if 0 ≤ n then Count.ofNat? n.toNat else none
  | _ => none

def asFloat? : Json → Option Binary64
  | integer n => some (Binary64.ofInt n)
  | float x => some x
  | _ => none

def asList? {α : Type} (entry : Json → Option α) : Json → Option (List α)
  | array items => items.mapM entry
  | _ => none

def asOption? {α : Type} (entry : Json → Option α) : Json → Option (Option α)
  | null => some none
  | j => (entry j).map some

def asName? {α : Type} (names : List (String × α)) : Json → Option α
  | string s => (names.find? fun n => n.1 = s).map Prod.snd
  | object [(s, null)] => (names.find? fun n => n.1 = s).map Prod.snd
  | _ => none

def asInnerName? {α : Type} (names : List (String × α)) : Json → Option α
  | object [(s, object [])] => asName? names (string s)
  | j => asName? names j

/-- The kind of a node and the tree that holds its parts: an object with the kind as the member of
the given name, or an array with the kind in front. -/
def node? (name : String) : Json → Option (Json × Json)
  | object members => (lookup name members).map fun kind => (kind, object members)
  | array (kind :: parts) => some (kind, array parts)
  | _ => none

/-- The fields of a record, from an object or from an array in the order of the names. The last
fields of an array may be missing. -/
def fields? (names : List String) : Json → Option (List (Option Json))
  | object members => some (names.map fun name => lookup name members)
  | array items =>
    if items.length ≤ names.length then
      some (items.map some ++ List.replicate (names.length - items.length) none)
    else none
  | _ => none

def required {α : Type} (entry : Json → Option α) (field : Option Json) : Option α :=
  field.bind entry

def optional {α : Type} (default : α) (entry : Json → Option α) : Option Json → Option α
  | none => some default
  | some j => entry j

def ofCount (n : Count) : Json :=
  integer n.toNat

def ofOption {α : Type} (entry : α → Json) : Option α → Json
  | none => null
  | some a => entry a

def ofList {α : Type} (entry : α → Json) (as : List α) : Json :=
  array (as.map entry)

end Json

end EntityQuery
