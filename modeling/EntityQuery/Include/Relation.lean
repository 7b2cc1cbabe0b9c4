import EntityQuery.Include.Node
import EntityQuery.Text.Quoted

set_option autoImplicit false

namespace EntityQuery

variable {ι : Type}

structure Relation (ι : Type) where
  name : String
  shape : LinkShape
  target : ι

namespace Relation

def isDeclared (owner : Schema ι) (r : Relation ι) : Bool :=
  match owner.entity.relation? r.name with
  | some d => d.shape = r.shape && (owner.family d.target).name = (owner.family r.target).name
  | none => false

def toNode (owner : Schema ι) (r : Relation ι) : IncludeNode :=
  .of r.name owner.name (owner.family r.target).name r.shape

def toText (r : Relation ι) : String :=
  "Relation \x7b name: " ++ Text.quoted r.name ++ ", shape: " ++ r.shape.label ++ " \x7d"

end Relation

structure Chain (ι : Type) where
  relation : Relation ι
  children : List (Chain ι)

namespace Chain

mutual

def toNode (owner : Schema ι) : Chain ι → IncludeNode
  | ⟨r, children⟩ =>
    { r.toNode owner with children := toNodes (owner.seenFrom r.target) children }

def toNodes (owner : Schema ι) : List (Chain ι) → List IncludeNode
  | [] => []
  | chain :: chains => chain.toNode owner :: toNodes owner chains

end

mutual

def undeclared (owner : Schema ι) : Chain ι → List String
  | ⟨r, children⟩ =>
    (if r.isDeclared owner then [] else [owner.name ++ "." ++ r.name]) ++
      undeclaredOfAll (owner.seenFrom r.target) children

def undeclaredOfAll (owner : Schema ι) : List (Chain ι) → List String
  | [] => []
  | chain :: chains => chain.undeclared owner ++ undeclaredOfAll owner chains

end

end Chain

end EntityQuery
