import EntityQuery.Value.Order

set_option autoImplicit false

namespace EntityQuery

inductive CompareOp where
  | eq
  | ne
  | gt
  | ge
  | lt
  | le
  deriving DecidableEq

inductive TextOp where
  | contains
  | startsWith
  | endsWith
  deriving DecidableEq

inductive Expr where
  | const (value : Bool)
  | compare (field : String) (op : CompareOp) (value : Value)
  | text (field : String) (op : TextOp) (value : String)
  | null (field : String) (negated : Bool)
  | empty (field : String) (negated : Bool)
  | oneOf (field : String) (values : List Value) (negated : Bool)
  | and (operands : List Expr)
  | or (operands : List Expr)
  | not (operand : Expr)

namespace Expr

def isTrue : Expr → Bool
  | const true => true
  | _ => false

def isFalse : Expr → Bool
  | const false => true
  | _ => false

def memberOf (field : String) (values : List Value) (negated : Bool) : Expr :=
  if values.isEmpty then const negated else oneOf field values negated

/-- The operands of a conjunction, with nested conjunctions opened and `true` left out; `none` when
one of them is `false`. -/
def conjuncts? : List Expr → Option (List Expr)
  | [] => some []
  | const true :: rest => conjuncts? rest
  | const false :: _ => none
  -- Constants inside a nested conjunction stay where they are.
  | and inner :: rest => (conjuncts? rest).map (inner ++ ·)
  | e :: rest => (conjuncts? rest).map (e :: ·)

def all (exprs : List Expr) : Expr :=
  match conjuncts? exprs with
  | none => const false
  | some [] => const true
  | some [e] => e
  | some operands => and operands

/-- The operands of a disjunction, with nested disjunctions opened and `false` left out; `none` when
one of them is `true`. -/
def disjuncts? : List Expr → Option (List Expr)
  | [] => some []
  | const false :: rest => disjuncts? rest
  | const true :: _ => none
  | or inner :: rest => (disjuncts? rest).map (inner ++ ·)
  | e :: rest => (disjuncts? rest).map (e :: ·)

def any (exprs : List Expr) : Expr :=
  match disjuncts? exprs with
  | none => const true
  | some [] => const false
  | some [e] => e
  | some operands => or operands

def both (e f : Expr) : Expr :=
  all [e, f]

def either (e f : Expr) : Expr :=
  any [e, f]

def negate : Expr → Expr
  | const b => const !b
  | not e => e
  | e => not e

mutual

def fields : Expr → List String
  | const _ => []
  | compare f _ _ => [f]
  | text f _ _ => [f]
  | null f _ => [f]
  | empty f _ => [f]
  | oneOf f _ _ => [f]
  | and es => fieldsOfAll es
  | or es => fieldsOfAll es
  | not e => e.fields

def fieldsOfAll : List Expr → List String
  | [] => []
  | e :: es => e.fields ++ fieldsOfAll es

end

mutual

def same : Expr → Expr → Bool
  | const a, const b => a == b
  | compare f op v, compare g op' w => f == g && op == op' && v.same w
  | text f op v, text g op' w => f == g && op == op' && v == w
  | null f n, null g m => f == g && n == m
  | empty f n, empty g m => f == g && n == m
  | oneOf f vs n, oneOf g ws m => f == g && Value.sameList vs ws && n == m
  | and es, and fs => sameAll es fs
  | or es, or fs => sameAll es fs
  | not e, not f => e.same f
  | _, _ => false

def sameAll : List Expr → List Expr → Bool
  | [], [] => true
  | e :: es, f :: fs => e.same f && sameAll es fs
  | _, _ => false

end

end Expr

end EntityQuery
