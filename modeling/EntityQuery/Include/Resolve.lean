import EntityQuery.Error
import EntityQuery.Include.Node

set_option autoImplicit false

namespace EntityQuery

def maxChainDepth : Nat := 8

inductive ChainShape where
  | referenceToReference
  | referenceToCollection
  | collectionToReference
  | collectionToCollection
  deriving DecidableEq

namespace ChainShape

def of (parentIsCollection : Bool) (child : LinkShape) : ChainShape :=
  match parentIsCollection, child with
  | false, .reference => referenceToReference
  | false, .collection => referenceToCollection
  | true, .reference => collectionToReference
  | true, .collection => collectionToCollection

def parentIsCollection : ChainShape → Bool
  | referenceToReference => false
  | referenceToCollection => false
  | collectionToReference => true
  | collectionToCollection => true

def childShape : ChainShape → LinkShape
  | referenceToReference => .reference
  | referenceToCollection => .collection
  | collectionToReference => .reference
  | collectionToCollection => .collection

def name : ChainShape → String
  | referenceToReference => "reference_to_reference"
  | referenceToCollection => "reference_to_collection"
  | collectionToReference => "collection_to_reference"
  | collectionToCollection => "collection_to_collection"

def names : List (String × ChainShape) :=
  [referenceToReference, referenceToCollection, collectionToReference,
    collectionToCollection].map fun s => (s.name, s)

end ChainShape

inductive IncludeOp where
  | root (path returnType : String) (shape : LinkShape)
  | below (parentPath path : String) (shape : ChainShape) (targetType : String)
  deriving DecidableEq

namespace IncludeOp

def navigation : IncludeOp → String
  | root path _ _ => path
  | below parentPath path _ _ => parentPath ++ "." ++ path

open Json

def toJson : IncludeOp → Json
  | root path returnType shape =>
    object [("kind", string "include"), ("path", string path), ("returnType", string returnType),
      ("shape", string shape.name)]
  | below parentPath path shape targetType =>
    object [("kind", string "thenInclude"), ("parentPath", string parentPath),
      ("path", string path), ("shape", string shape.name), ("targetType", string targetType)]

def ofJson? (j : Json) : Option IncludeOp := do
  let (kind, parts) ← node? "kind" j
  match ← kind.asString? with
  | "include" =>
    let [path, returnType, shape] ← parts.fields? ["path", "returnType", "shape"] | none
    return root (← required asString? path) (← required asString? returnType)
      (← required (asInnerName? LinkShape.names) shape)
  | "thenInclude" =>
    let [parentPath, path, shape, targetType] ←
      parts.fields? ["parentPath", "path", "shape", "targetType"] | none
    return below (← required asString? parentPath) (← required asString? path)
      (← required (asInnerName? ChainShape.names) shape) (← required asString? targetType)
  | _ => none

end IncludeOp

namespace IncludeNode

def checkReturnType (node : IncludeNode) : Except ChainError Unit :=
  if node.returnType = node.shape.returnType node.targetType then .ok ()
  else
    .error (.unsupportedShape node.path
      ("return type " ++ node.returnType ++ " does not match a " ++ node.shape.label ++ " of " ++
        node.targetType))

def resolve (node : IncludeNode) : Except ChainError IncludeOp := do
  node.checkReturnType
  return .root node.path node.returnType node.shape

structure Parent where
  path : String
  targetType : String
  isCollection : Bool

def Parent.ofRoot (node : IncludeNode) : Parent :=
  ⟨node.path, node.targetType, node.isCollectionLink⟩

def checkOwner (parent : Parent) (path ownerType : String) : Except ChainError Unit :=
  if ownerType = parent.targetType then .ok ()
  else .error (.ownerMismatch path parent.targetType ownerType)

mutual

def resolveBelow (parent : Parent) : IncludeNode → Except ChainError (List IncludeOp)
  | ⟨name, ownerType, targetType, returnType, shape, children⟩ => do
    let path := parent.path ++ "." ++ name
    checkOwner parent path ownerType
    checkReturnType ⟨name, ownerType, targetType, returnType, shape, children⟩
    -- The children start from the elements, the operation from what the link yields.
    let rest ← resolveAllBelow ⟨path, targetType, shape.isCollection⟩ children
    return .below parent.path name (ChainShape.of parent.isCollection shape) returnType :: rest

def resolveAllBelow (parent : Parent) : List IncludeNode → Except ChainError (List IncludeOp)
  | [] => .ok []
  | node :: nodes => do
    let ops ← resolveBelow parent node
    let rest ← resolveAllBelow parent nodes
    return ops ++ rest

end

def resolveChain (node : IncludeNode) : Except ChainError (List IncludeOp) :=
  if maxChainDepth < node.depth then
    .error (.unsupportedShape node.path
      ("chain deeper than " ++ String.ofList (Text.digits maxChainDepth) ++ " links"))
  else do
    let op ← node.resolve
    let rest ← resolveAllBelow (.ofRoot node) node.children
    return op :: rest

end IncludeNode

end EntityQuery
