import EntityQuery.Expr.Basic
import EntityQuery.Text.Basic

set_option autoImplicit false

namespace EntityQuery

def CompareOp.symbol : CompareOp → String
  | eq => "=="
  | ne => "!="
  | gt => ">"
  | ge => ">="
  | lt => "<"
  | le => "<="

def TextOp.keyword : TextOp → String
  | contains => "contains"
  | startsWith => "starts with"
  | endsWith => "ends with"

namespace Expr

inductive Connective where
  | and
  | or
  deriving DecidableEq

def Connective.separator : Connective → String
  | and => " AND "
  | or => " OR "

def needsParens (parent : Connective) : Expr → Bool
  | and _ => parent = .or
  | or _ => parent = .and
  | _ => false

def notWord (negated : Bool) : String :=
  if negated then "NOT " else ""

mutual

def toText : Expr → String
  | const b => Value.boolText b
  | compare f op v => f ++ " " ++ op.symbol ++ " " ++ v.toText
  | text f op v => f ++ " " ++ op.keyword ++ " \"" ++ v ++ "\""
  | null f negated => f ++ " IS " ++ notWord negated ++ "NULL"
  | empty f negated => f ++ " IS " ++ notWord negated ++ "EMPTY"
  | oneOf f vs negated =>
    f ++ " " ++ notWord negated ++ "IN (" ++ Text.join ", " (vs.map Value.toText) ++ ")"
  | and es => Text.join (Connective.separator .and) (operandTexts .and es)
  | or es => Text.join (Connective.separator .or) (operandTexts .or es)
  | not e => "NOT (" ++ e.toText ++ ")"

def operandTexts (parent : Connective) : List Expr → List String
  | [] => []
  | e :: es =>
    (if needsParens parent e then "(" ++ e.toText ++ ")" else e.toText) :: operandTexts parent es

end

end Expr

end EntityQuery
