import EntityQuery.StableSort
import EntityQuery.Text.Basic

set_option autoImplicit false

namespace EntityQuery

structure ValidationErrors where
  fields : List (String × List String)
  base : List String
  deriving DecidableEq

namespace ValidationErrors

def empty : ValidationErrors := ⟨[], []⟩

def isEmpty (e : ValidationErrors) : Bool :=
  e.fields.isEmpty && e.base.isEmpty

def extend (field : String) (messages : List String) :
    List (String × List String) → List (String × List String)
  | [] => [(field, messages)]
  | (name, old) :: rest =>
    if name = field then (name, old ++ messages) :: rest
    else (name, old) :: extend field messages rest

def add (e : ValidationErrors) (field message : String) : ValidationErrors :=
  { e with fields := extend field [message] e.fields }

def addBase (e : ValidationErrors) (message : String) : ValidationErrors :=
  { e with base := e.base ++ [message] }

def get? (e : ValidationErrors) (field : String) : Option (List String) :=
  (e.fields.find? fun entry => entry.1 = field).map Prod.snd

def hasError (e : ValidationErrors) (field : String) : Bool :=
  (e.get? field).isSome

def merge (e other : ValidationErrors) : ValidationErrors :=
  { fields := other.fields.foldl (fun fields entry => extend entry.1 entry.2 fields) e.fields
    base := e.base ++ other.base }

def fullMessages (e : ValidationErrors) : List String :=
  e.base ++ (stableSort (compareOn Prod.fst) e.fields).flatMap fun entry =>
    entry.2.map fun message => entry.1 ++ " " ++ message

def message (e : ValidationErrors) : String :=
  "Validation errors: " ++ Text.join ", " e.fullMessages

def toResult (e : ValidationErrors) : Except ValidationErrors Unit :=
  if e.isEmpty then .ok () else .error e

end ValidationErrors

end EntityQuery
