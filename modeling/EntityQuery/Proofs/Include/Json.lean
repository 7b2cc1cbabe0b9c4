import EntityQuery.Include.Node
import EntityQuery.Proofs.Json.Basic

set_option autoImplicit false

namespace EntityQuery

open Json

theorem LinkShape.ofJson?_name (shape : LinkShape) : ofJson? (string shape.name) = some shape := by
  cases shape <;> rfl

namespace IncludeNode

theorem toJsonAll_eq_map (nodes : List IncludeNode) : toJsonAll nodes = nodes.map toJson := by
  induction nodes with
  | nil => simp [toJsonAll]
  | cons node nodes ih => simp [toJsonAll, ih]

def Reads (node : IncludeNode) : Prop :=
  ∀ levels, node.toJson.depth ≤ levels → ofJsonWithin? levels node.toJson = some node

theorem reads_node (path ownerType targetType returnType : String) (shape : LinkShape)
    {children : List IncludeNode} (h : ∀ child ∈ children, Reads child) :
    Reads ⟨path, ownerType, targetType, returnType, shape, children⟩ := by
  intro levels enough
  cases levels with
  | zero => exact absurd enough (Nat.not_le.2 (depth_pos _))
  | succ levels =>
    simp only [toJson, Json.depth, depthOfMembers] at enough
    have below : depthOfItems (children.map toJson) ≤ levels := by
      rw [← toJsonAll_eq_map]
      omega
    have read : asList? (ofJsonWithin? levels) (array (toJsonAll children)) = some children := by
      rw [toJsonAll_eq_map]
      exact asList?_ofList fun child mem => h child mem levels
        (Nat.le_trans (depth_le_of_mem (List.mem_map_of_mem mem)) below)
    simp [toJson, ofJsonWithin?, LinkShape.ofJson?_name, read]

mutual

theorem reads : (node : IncludeNode) → Reads node
  | ⟨path, ownerType, targetType, returnType, shape, children⟩ =>
    reads_node path ownerType targetType returnType shape (readsAll children)

theorem readsAll : (nodes : List IncludeNode) → ∀ node ∈ nodes, Reads node
  | [] => by simp
  | node :: nodes => List.forall_mem_cons.2 ⟨reads node, readsAll nodes⟩

end

theorem ofJson?_toJson (node : IncludeNode) : ofJson? node.toJson = some node :=
  reads node node.toJson.depth (Nat.le_refl _)

end IncludeNode

end EntityQuery
