import EntityQuery.Json.Basic
import EntityQuery.Text.Basic
import EntityQuery.Text.Lowercase

set_option autoImplicit false

namespace EntityQuery

inductive FilterOperator where
  | equals
  | notEquals
  | contains
  | startsWith
  | endsWith
  | greaterThan
  | greaterOrEqual
  | lessThan
  | lessOrEqual
  | isNull
  | isNotNull
  | isEmpty
  | isNotEmpty
  | oneOf
  | notOneOf
  deriving DecidableEq

namespace FilterOperator

def all : List FilterOperator :=
  [equals, notEquals, contains, startsWith, endsWith, greaterThan, greaterOrEqual, lessThan,
    lessOrEqual, isNull, isNotNull, isEmpty, isNotEmpty, oneOf, notOneOf]

def name : FilterOperator → String
  | equals => "equals"
  | notEquals => "not-equals"
  | contains => "contains"
  | startsWith => "starts-with"
  | endsWith => "ends-with"
  | greaterThan => "greater-than"
  | greaterOrEqual => "greater-or-equal"
  | lessThan => "less-than"
  | lessOrEqual => "less-or-equal"
  | isNull => "is-null"
  | isNotNull => "is-not-null"
  | isEmpty => "is-empty"
  | isNotEmpty => "is-not-empty"
  | oneOf => "in"
  | notOneOf => "not-in"

def foldName (s : String) : String :=
  let kept := (Text.trim s).toList.filter fun c => c ≠ '-' ∧ c ≠ '_' ∧ c ≠ ' '
  Text.lowerEach (String.ofList kept)

def ofFoldedName? : String → Option FilterOperator
  | "equals" | "equal" | "eq" | "=" | "==" => some equals
  | "notequals" | "notequal" | "ne" | "neq" | "!=" | "<>" => some notEquals
  | "contains" | "like" | "~" => some contains
  | "startswith" | "sw" => some startsWith
  | "endswith" | "ew" => some endsWith
  | "greaterthan" | "gt" | ">" => some greaterThan
  | "greaterorequal" | "greaterthanorequal" | "gte" | "ge" | ">=" => some greaterOrEqual
  | "lessthan" | "lt" | "<" => some lessThan
  | "lessorequal" | "lessthanorequal" | "lte" | "le" | "<=" => some lessOrEqual
  | "isnull" | "null" => some isNull
  | "isnotnull" | "notnull" => some isNotNull
  | "isempty" | "empty" => some isEmpty
  | "isnotempty" | "notempty" => some isNotEmpty
  | "in" => some oneOf
  | "notin" | "nin" => some notOneOf
  | _ => none

def resolve? (s : String) : Option FilterOperator :=
  ofFoldedName? (foldName s)

def requiresValue : FilterOperator → Bool
  | isNull | isNotNull | isEmpty | isNotEmpty => false
  | _ => true

def isSet : FilterOperator → Bool
  | oneOf | notOneOf => true
  | _ => false

def isText : FilterOperator → Bool
  | contains | startsWith | endsWith => true
  | _ => false

def ofJson? : Json → Option FilterOperator :=
  Json.asName? (all.map fun op => (op.name, op))

end FilterOperator

end EntityQuery
