import EntityQuery.Expr.Basic
import EntityQuery.Value.Json

set_option autoImplicit false

namespace EntityQuery

open Json

namespace CompareOp

def name : CompareOp → String
  | eq => "eq"
  | ne => "ne"
  | gt => "gt"
  | ge => "ge"
  | lt => "lt"
  | le => "le"

def names : List (String × CompareOp) :=
  [eq, ne, gt, ge, lt, le].map fun op => (op.name, op)

def ofJson? : Json → Option CompareOp :=
  asName? names

end CompareOp

namespace TextOp

def name : TextOp → String
  | contains => "contains"
  | startsWith => "startsWith"
  | endsWith => "endsWith"

def names : List (String × TextOp) :=
  [contains, startsWith, endsWith].map fun op => (op.name, op)

def ofJson? : Json → Option TextOp :=
  asName? names

end TextOp

namespace Expr

def node (kind : String) (parts : List (String × Json)) : Json :=
  object (("kind", string kind) :: parts)

mutual

def toJson : Expr → Json
  | const b => node "const" [("value", .bool b)]
  | compare f op v =>
    node "compare" [("field", .string f), ("op", .string op.name), ("value", v.toJson)]
  | text f op v =>
    node "text" [("field", .string f), ("op", .string op.name), ("value", .string v)]
  | null f negated => node "null" [("field", .string f), ("negated", .bool negated)]
  | empty f negated => node "empty" [("field", .string f), ("negated", .bool negated)]
  | oneOf f vs negated =>
    node "in" [("field", .string f), ("values", ofList Value.toJson vs),
      ("negated", .bool negated)]
  | and es => node "and" [("operands", array (toJsonAll es))]
  | or es => node "or" [("operands", array (toJsonAll es))]
  | not e => node "not" [("operand", e.toJson)]

def toJsonAll : List Expr → List Json
  | [] => []
  | e :: es => e.toJson :: toJsonAll es

end

def kinds : List String :=
  ["const", "compare", "text", "null", "empty", "in", "and", "or", "not"]

def innerKind? : Json → Option String
  | .integer n => if 0 ≤ n then kinds[n.toNat]? else none
  | j => j.asString?

def ofJsonWithin? (kind? : Json → Option String) : Nat → Json → Option Expr
  | 0, _ => none
  | levels + 1, j => do
    let (kind, parts) ← node? "kind" j
    match ← kind? kind with
    | "const" =>
      let [value] ← parts.fields? ["value"] | none
      return const (← required asBool? value)
    | "compare" =>
      let [field, op, value] ← parts.fields? ["field", "op", "value"] | none
      return compare (← required asString? field) (← required (asInnerName? CompareOp.names) op)
        (← required Value.ofInnerJson? value)
    | "text" =>
      let [field, op, value] ← parts.fields? ["field", "op", "value"] | none
      return text (← required asString? field) (← required (asInnerName? TextOp.names) op)
        (← required asString? value)
    | "null" =>
      let [field, negated] ← parts.fields? ["field", "negated"] | none
      return null (← required asString? field) (← required asBool? negated)
    | "empty" =>
      let [field, negated] ← parts.fields? ["field", "negated"] | none
      return empty (← required asString? field) (← required asBool? negated)
    | "in" =>
      let [field, values, negated] ← parts.fields? ["field", "values", "negated"] | none
      return oneOf (← required asString? field) (← required (asList? Value.ofInnerJson?) values)
        (← required asBool? negated)
    | "and" =>
      let [operands] ← parts.fields? ["operands"] | none
      return and (← required (asList? (ofJsonWithin? innerKind? levels)) operands)
    | "or" =>
      let [operands] ← parts.fields? ["operands"] | none
      return or (← required (asList? (ofJsonWithin? innerKind? levels)) operands)
    | "not" =>
      let [operand] ← parts.fields? ["operand"] | none
      return not (← required (ofJsonWithin? innerKind? levels) operand)
    | _ => none

def ofJson? (j : Json) : Option Expr :=
  ofJsonWithin? asString? j.depth j

end Expr

end EntityQuery
