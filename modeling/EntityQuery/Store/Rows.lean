import EntityQuery.Entity
import EntityQuery.Expr.Evaluate
import EntityQuery.Sort
import EntityQuery.StableSort
import EntityQuery.Text.Numeral
import EntityQuery.Value.Order

set_option autoImplicit false

namespace EntityQuery

variable {ι α : Type}

namespace Entity

def satisfies (E : Entity ι α) (e : Expr) (row : α) : Bool :=
  e.evaluate (E.value row)

def compareBy (E : Entity ι α) : List SortCriterion → α → α → Ordering
  | [], _, _ => .eq
  | c :: keys, a, b =>
    (c.direction.apply ((E.value a c.field).sortCompare (E.value b c.field))).then
      (E.compareBy keys a b)

def sortRows (E : Entity ι α) (keys : List SortCriterion) (rows : List α) : List α :=
  stableSort (E.compareBy keys) rows

def distinctValues : List Value → List Value → List Value
  | seen, [] => seen
  | seen, v :: vs =>
    if seen.any (fun w => w.same v) then distinctValues seen vs
    else distinctValues (seen ++ [v]) vs

def groupIndex (values : List Value) (v : Value) : Nat :=
  values.findIdx fun w => w.same v

/-- Brings rows with equal keys together, the groups in order of first appearance. Rows whose key
does not equal itself come last. -/
def groupRows (E : Entity ι α) (key : String) (rows : List α) : List α :=
  let values := distinctValues [] (rows.map fun row => E.value row key)
  stableSort (compareOn fun row => groupIndex values (E.value row key)) rows

def distinctFrom (E : Entity ι α) : List (List Value) → List α → List α
  | _, [] => []
  | seen, row :: rows =>
    let values := E.scalarValues row
    if seen.any (fun old => Value.sameList old values) then E.distinctFrom seen rows
    else row :: E.distinctFrom (seen ++ [values]) rows

def distinctRows (E : Entity ι α) (rows : List α) : List α :=
  E.distinctFrom [] rows

end Entity

inductive RowOp where
  | filter (e : Expr)
  | groupBy (key : String)
  | distinct
  | orderBy (c : SortCriterion)
  | thenBy (c : SortCriterion)
  | skip (count : Count)
  | take (count : Count)

namespace RowOp

/-- Runs the operations in order. `keys` are the sort keys so far: a primary key replaces them, and
a secondary key sorts again by all of them. -/
def run (E : Entity ι α) : List SortCriterion → List RowOp → List α → List α
  | _, [], rows => rows
  | keys, filter e :: ops, rows => run E keys ops (rows.filter (E.satisfies e))
  | keys, groupBy key :: ops, rows => run E keys ops (E.groupRows key rows)
  | keys, distinct :: ops, rows => run E keys ops (E.distinctRows rows)
  | _, orderBy c :: ops, rows => run E [c] ops (E.sortRows [c] rows)
  -- The rows are sorted afresh: operations in between may have moved them.
  | keys, thenBy c :: ops, rows => run E (keys ++ [c]) ops (E.sortRows (keys ++ [c]) rows)
  | keys, skip count :: ops, rows => run E keys ops (rows.drop count.toNat)
  | keys, take count :: ops, rows => run E keys ops (rows.take count.toNat)

def isSort : RowOp → Bool
  | orderBy _ => true
  | thenBy _ => true
  | _ => false

def keysAfter (keys : List SortCriterion) : RowOp → List SortCriterion
  | orderBy c => [c]
  | thenBy c => keys ++ [c]
  | _ => keys

def settles (E : Entity ι α) : List SortCriterion → List RowOp → List α → Bool
  | _, [], _ => true
  | keys, op :: ops, rows =>
    (!op.isSort || sortSettles (E.compareBy (op.keysAfter keys)) rows) &&
      settles E (op.keysAfter keys) ops (run E keys [op] rows)

end RowOp

end EntityQuery
