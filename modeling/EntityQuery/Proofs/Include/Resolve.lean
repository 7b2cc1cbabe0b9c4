import EntityQuery.Include.Resolve
import EntityQuery.Proofs.Except

set_option autoImplicit false

namespace EntityQuery.IncludeNode

mutual

def linkPaths : IncludeNode → List String
  | ⟨path, _, _, _, _, children⟩ =>
    path :: (linkPathsOfAll children).map fun below => path ++ "." ++ below

def linkPathsOfAll : List IncludeNode → List String
  | [] => []
  | node :: nodes => node.linkPaths ++ linkPathsOfAll nodes

end

theorem linkPathsOfAll_eq_flatMap (nodes : List IncludeNode) :
    linkPathsOfAll nodes = nodes.flatMap linkPaths := by
  induction nodes with
  | nil => rfl
  | cons node nodes ih => rw [linkPathsOfAll, ih, List.flatMap_cons]

theorem linkPaths_eq (node : IncludeNode) :
    node.linkPaths = node.path ::
      (node.children.flatMap linkPaths).map fun below => node.path ++ "." ++ below := by
  rw [← linkPathsOfAll_eq_flatMap]
  cases node
  rfl

theorem resolve_ok {node : IncludeNode} {op : IncludeOp} (h : node.resolve = .ok op) :
    op = .root node.path node.returnType node.shape := by
  simp only [resolve, bind_ok_iff, pure_ok_iff] at h
  obtain ⟨-, -, rfl⟩ := h
  rfl

mutual

theorem resolveBelow_navigation (parent : Parent) : (node : IncludeNode) → {ops : List IncludeOp} →
    resolveBelow parent node = .ok ops →
    ops.map IncludeOp.navigation = node.linkPaths.map fun path => parent.path ++ "." ++ path
  | ⟨name, ownerType, targetType, returnType, shape, children⟩, ops, h => by
    simp only [resolveBelow, bind_ok_iff, pure_ok_iff] at h
    obtain ⟨-, -, -, -, rest, below, rfl⟩ := h
    have paths := resolveAllBelow_navigation _ children below
    simp [linkPaths, paths, IncludeOp.navigation, String.append_assoc]

theorem resolveAllBelow_navigation (parent : Parent) : (nodes : List IncludeNode) →
    {ops : List IncludeOp} → resolveAllBelow parent nodes = .ok ops →
    ops.map IncludeOp.navigation = (linkPathsOfAll nodes).map fun path => parent.path ++ "." ++ path
  | [], ops, h => by
    cases h
    rfl
  | node :: nodes, ops, h => by
    simp only [resolveAllBelow, bind_ok_iff, pure_ok_iff] at h
    obtain ⟨own, first, rest, later, rfl⟩ := h
    simp only [linkPathsOfAll, List.map_append, resolveBelow_navigation parent node first,
      resolveAllBelow_navigation parent nodes later]

end

theorem resolveChain_navigation {node : IncludeNode} {ops : List IncludeOp}
    (h : node.resolveChain = .ok ops) : ops.map IncludeOp.navigation = node.linkPaths := by
  rw [resolveChain] at h
  split at h
  next => cases h
  next =>
    simp only [bind_ok_iff, pure_ok_iff] at h
    obtain ⟨op, root, rest, below, rfl⟩ := h
    obtain rfl := resolve_ok root
    have paths := resolveAllBelow_navigation _ node.children below
    rw [List.map_cons, paths, linkPaths_eq, linkPathsOfAll_eq_flatMap]
    rfl

end EntityQuery.IncludeNode
