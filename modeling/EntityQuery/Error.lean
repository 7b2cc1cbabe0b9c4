import EntityQuery.ValidationErrors

set_option autoImplicit false

namespace EntityQuery

inductive ChainError where
  | ownerMismatch (path expected found : String)
  | unsupportedShape (path detail : String)
  | unresolvedPath (path entity : String)
  deriving DecidableEq

def ChainError.message : ChainError → String
  | ownerMismatch path expected found =>
    "Link " ++ path ++ " is declared on " ++ found ++ ", but its parent yields " ++ expected
  | unsupportedShape path detail => "No include shape for link " ++ path ++ ": " ++ detail
  | unresolvedPath path entity => "Include path " ++ path ++ " does not resolve on " ++ entity

inductive StoreError where
  | cancelled
  | unavailable (reason : String)
  | backend (reason : String)
  deriving DecidableEq

def StoreError.message : StoreError → String
  | cancelled => "Operation cancelled"
  | unavailable reason => "Store unavailable: " ++ reason
  | backend reason => "Store backend error: " ++ reason

inductive QueryError where
  | unknownOperator (operator : String)
  | invalidSpecification (errors : ValidationErrors)
  | pagingNotEnabled
  | projectionMismatch (expected requested : String)
  | missingProjection
  | chain (error : ChainError)
  | store (error : StoreError)
  | config (reason : String)
  deriving DecidableEq

namespace QueryError

def message : QueryError → String
  | unknownOperator operator => "Unknown filter operator: " ++ operator
  | invalidSpecification errors => "Invalid specification: " ++ errors.message
  | pagingNotEnabled => "Paging requested on a specification without paging enabled"
  | projectionMismatch expected requested =>
    "Projection type mismatch: specification projects to " ++ expected ++ ", requested " ++
      requested
  | missingProjection => "Specification has no projection"
  | chain error => "Include chain error: " ++ error.message
  | store error => error.message
  | config reason => "Configuration error: " ++ reason

def code : QueryError → String
  | unknownOperator _ => "unknown_operator"
  | invalidSpecification _ => "invalid_specification"
  | pagingNotEnabled => "paging_not_enabled"
  | projectionMismatch _ _ => "projection_mismatch"
  | missingProjection => "missing_projection"
  | chain _ => "include_chain"
  | store _ => "store_error"
  | config _ => "configuration_error"

def isConfigurationFault : QueryError → Bool
  | store _ => false
  | _ => true

end QueryError

inductive ConfigError where
  | invalidValue (key reason : String)
  deriving DecidableEq

def ConfigError.message : ConfigError → String
  | invalidValue key reason => "Invalid value for " ++ key ++ ": " ++ reason

end EntityQuery
