import EntityQuery.Expr.Canonical

set_option autoImplicit false

namespace EntityQuery

structure FieldRef where
  path : String
  deriving DecidableEq

namespace FieldRef

variable {ι : Type}

def of (s : Schema ι) (name : String) : FieldRef :=
  ⟨Expr.declaredPath s name⟩

def compare (f : FieldRef) (op : CompareOp) (v : Value) : Expr :=
  .compare f.path op v

def text (f : FieldRef) (op : TextOp) (piece : String) : Expr :=
  .text f.path op piece

def isNull (f : FieldRef) : Expr :=
  .null f.path false

def isNotNull (f : FieldRef) : Expr :=
  .null f.path true

def oneOf (f : FieldRef) (vs : List Value) : Expr :=
  .memberOf f.path vs false

end FieldRef

end EntityQuery
