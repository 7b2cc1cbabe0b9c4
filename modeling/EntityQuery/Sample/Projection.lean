import EntityQuery.Specification.Basic

set_option autoImplicit false

namespace EntityQuery.Sample

inductive ResultType where
  | string
  | integer
  deriving DecidableEq

instance : ResultTypes ResultType where
  Carrier
    | .string => String
    | .integer => Int64
  typeName
    | .string => "alloc::string::String"
    | .integer => "i64"

variable {ι α : Type}

def textOf (E : Entity ι α) (path : String) : Selector ResultType α :=
  ⟨.string, fun row => (E.value row path).toText⟩

def integerOf (E : Entity ι α) (path : String) : Selector ResultType α :=
  ⟨.integer, fun row =>
    match E.value row path with
    | .integer n => n
    | _ => (0 : Int64)⟩

end EntityQuery.Sample
