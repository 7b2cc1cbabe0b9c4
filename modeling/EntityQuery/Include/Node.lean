import EntityQuery.Json.Basic
import EntityQuery.Schema.Basic
import EntityQuery.Text.Basic

set_option autoImplicit false

namespace EntityQuery

namespace LinkShape

def name : LinkShape → String
  | reference => "reference"
  | collection => "collection"

def names : List (String × LinkShape) :=
  [reference, collection].map fun s => (s.name, s)

def ofJson? : Json → Option LinkShape :=
  Json.asName? names

end LinkShape

structure IncludeNode where
  path : String
  ownerType : String
  targetType : String
  returnType : String
  shape : LinkShape
  children : List IncludeNode

namespace IncludeNode

def of (path ownerType targetType : String) (shape : LinkShape) : IncludeNode :=
  ⟨path, ownerType, targetType, shape.returnType targetType, shape, []⟩

def withChild (node child : IncludeNode) : IncludeNode :=
  { node with children := node.children ++ [child] }

def isCollectionLink (node : IncludeNode) : Bool :=
  node.shape.isCollection

mutual

def depth : IncludeNode → Nat
  | ⟨_, _, _, _, _, children⟩ => 1 + depthOfAll children

def depthOfAll : List IncludeNode → Nat
  | [] => 0
  | node :: nodes => max node.depth (depthOfAll nodes)

end

mutual

def paths : IncludeNode → List String
  | ⟨path, _, _, _, _, []⟩ => [path]
  | ⟨path, _, _, _, _, child :: children⟩ =>
    (child.paths ++ pathsOfAll children).map fun below => path ++ "." ++ below

def pathsOfAll : List IncludeNode → List String
  | [] => []
  | node :: nodes => node.paths ++ pathsOfAll nodes

end

open Json

mutual

def toJson : IncludeNode → Json
  | ⟨path, ownerType, targetType, returnType, shape, children⟩ =>
    object [("path", string path), ("ownerType", string ownerType),
      ("targetType", string targetType), ("returnType", string returnType),
      ("shape", string shape.name), ("children", array (toJsonAll children))]

def toJsonAll : List IncludeNode → List Json
  | [] => []
  | node :: nodes => node.toJson :: toJsonAll nodes

end

def ofJsonWithin? : Nat → Json → Option IncludeNode
  | 0, _ => none
  | levels + 1, j => do
    let [path, ownerType, targetType, returnType, shape, children] ←
      j.fields? ["path", "ownerType", "targetType", "returnType", "shape", "children"] | none
    return ⟨← required asString? path, ← required asString? ownerType,
      ← required asString? targetType, ← required asString? returnType,
      ← required LinkShape.ofJson? shape,
      ← optional [] (asList? (ofJsonWithin? levels)) children⟩

def ofJson? (j : Json) : Option IncludeNode :=
  ofJsonWithin? j.depth j

end IncludeNode

end EntityQuery
