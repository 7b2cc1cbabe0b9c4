import EntityQuery.Error
import EntityQuery.Json.Basic

set_option autoImplicit false

namespace EntityQuery

open Json

def ValidationErrors.toJson (e : ValidationErrors) : Json :=
  object [
    ("fields", object (e.fields.map fun (name, messages) => (name, ofList string messages))),
    ("base", ofList string e.base)]

namespace ChainError

def code : ChainError → String
  | ownerMismatch _ _ _ => "owner_mismatch"
  | unsupportedShape _ _ => "unsupported_shape"
  | unresolvedPath _ _ => "unresolved_path"

def toJson (e : ChainError) : Json :=
  object [("error", string e.code), ("message", string e.message)]

end ChainError

namespace StoreError

def code : StoreError → String
  | cancelled => "cancelled"
  | unavailable _ => "unavailable"
  | backend _ => "backend"

def toJson (e : StoreError) : Json :=
  object [("error", string e.code), ("message", string e.message)]

end StoreError

def ConfigError.toJson (e : ConfigError) : Json :=
  object [("error", string "invalid_value"), ("message", string e.message)]

namespace QueryError

def details : QueryError → List (String × Json)
  | invalidSpecification errors => [("errors", errors.toJson)]
  | chain cause => [("cause", string cause.code)]
  | store cause => [("cause", string cause.code)]
  | _ => []

def toJson (e : QueryError) : Json :=
  object ([("error", string e.code), ("message", string e.message),
    ("configurationFault", bool e.isConfigurationFault)] ++ e.details)

end QueryError

end EntityQuery
