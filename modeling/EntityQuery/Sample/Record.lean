import EntityQuery.Entity
import EntityQuery.Sample.Family

set_option autoImplicit false

namespace EntityQuery.Sample

structure Node where
  values : List (String × Value)

def Node.value (n : Node) (path : String) : Value :=
  ((n.values.find? fun entry => entry.1 = path).map Prod.snd).getD .null

structure Counter where
  id : Int64
  ratio : Option Binary64

def Counter.value (c : Counter) : String → Value
  | "Id" => .integer c.id
  | "Ratio" => match c.ratio with
    | some x => .float x
    | none => .null
  | _ => .null

def nodes : Entity Kind Node := ⟨Kind.node.schema, Node.value⟩

def counters : Entity Kind Counter := ⟨Kind.counter.schema, Counter.value⟩

end EntityQuery.Sample
