import EntityQuery.Expr.Basic
import EntityQuery.Text.Basic
import EntityQuery.Text.Lowercase

set_option autoImplicit false

namespace EntityQuery

namespace CompareOp

def holds (op : CompareOp) (actual value : Value) : Bool :=
  match op with
  | eq => actual.looselyEquals value
  | ne => !actual.looselyEquals value
  | gt => (actual.compare? value).any Ordering.isGT
  | ge => (actual.compare? value).any Ordering.isGE
  | lt => (actual.compare? value).any Ordering.isLT
  | le => (actual.compare? value).any Ordering.isLE

end CompareOp

namespace TextOp

def holds (op : TextOp) (actual piece : String) : Bool :=
  let actual := Text.lower actual
  let piece := Text.lower piece
  match op with
  | contains => Text.contains actual piece
  | startsWith => Text.startsWith actual piece
  | endsWith => Text.endsWith actual piece

end TextOp

namespace Value

def isEmpty : Value → Bool
  | null => true
  | string s => s = ""
  | _ => false

end Value

namespace Expr

mutual

def evaluate (get : String → Value) : Expr → Bool
  | const b => b
  | compare f op v => op.holds (get f) v
  | text f op v => match get f with
    | .string s => op.holds s v
    | _ => false
  | null f negated => (get f).isNull != negated
  | empty f negated => (get f).isEmpty != negated
  | oneOf f vs negated => vs.any (fun v => (get f).looselyEquals v) != negated
  | and es => evaluateAll get es
  | or es => evaluateAny get es
  | not e => !e.evaluate get

def evaluateAll (get : String → Value) : List Expr → Bool
  | [] => true
  | e :: es => e.evaluate get && evaluateAll get es

def evaluateAny (get : String → Value) : List Expr → Bool
  | [] => false
  | e :: es => e.evaluate get || evaluateAny get es

end

end Expr

end EntityQuery
