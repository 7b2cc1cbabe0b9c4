import EntityQuery.Include.Relation
import EntityQuery.Proofs.Include.Resolve
import EntityQuery.Proofs.Schema.Links

set_option autoImplicit false

namespace EntityQuery

variable {ι : Type} {family : ι → EntitySchema ι} {owner target : ι}

namespace IncludeNode

structure LinkDeclared (family : ι → EntitySchema ι) (owner target : ι) (node : IncludeNode) :
    Prop where
  ownerType : node.ownerType = (family owner).name
  targetType : node.targetType = (family target).name
  relation : ∃ d, (family owner).relation? node.path = some d ∧ d.shape = node.shape ∧
    (family d.target).name = node.targetType
  returnType : node.returnType = node.shape.returnType node.targetType

inductive Declared (family : ι → EntitySchema ι) : ι → IncludeNode → Prop where
  | node {owner target : ι} {node : IncludeNode} (link : node.LinkDeclared family owner target)
    (below : ∀ child ∈ node.children, Declared family target child) : Declared family owner node

theorem checkReturnType_ok {node : IncludeNode}
    (h : node.returnType = node.shape.returnType node.targetType) :
    node.checkReturnType = .ok () :=
  if_pos h

theorem LinkDeclared.resolve {node : IncludeNode} (h : node.LinkDeclared family owner target) :
    node.resolve = .ok (.root node.path node.returnType node.shape) := by
  rw [IncludeNode.resolve, checkReturnType_ok h.returnType]
  rfl

theorem LinkDeclared.continues {node : IncludeNode} (h : node.LinkDeclared family owner target)
    (below : ∀ child ∈ node.children, child.Declared family target) :
    ∀ child ∈ node.children, child.ownerType = node.targetType := by
  intro child mem
  cases below child mem with
  | node link _ => rw [link.ownerType, h.targetType]

theorem resolveAllBelow_ok (parent : Parent) (nodes : List IncludeNode)
    (each : ∀ node ∈ nodes, ∃ ops, resolveBelow parent node = .ok ops) :
    ∃ ops, resolveAllBelow parent nodes = .ok ops := by
  induction nodes with
  | nil => exact ⟨[], rfl⟩
  | cons node nodes ih =>
    obtain ⟨⟨ops, resolved⟩, later⟩ := List.forall_mem_cons.1 each
    obtain ⟨rest, resolvedRest⟩ := ih later
    refine ⟨ops ++ rest, ?_⟩
    rw [resolveAllBelow, resolved, resolvedRest]
    rfl

theorem Declared.resolveBelow_ok {node : IncludeNode} (h : node.Declared family owner)
    {parent : Parent} (starts : node.ownerType = parent.targetType) :
    ∃ ops, resolveBelow parent node = .ok ops := by
  induction h generalizing parent with
  | @node owner target node link below ih =>
    obtain ⟨rest, resolved⟩ := resolveAllBelow_ok
      ⟨parent.path ++ "." ++ node.path, node.targetType, node.shape.isCollection⟩ node.children
      fun child mem => ih child mem (link.continues below child mem)
    have owner : checkOwner parent (parent.path ++ "." ++ node.path) node.ownerType = .ok () :=
      if_pos starts
    have returned := checkReturnType_ok link.returnType
    refine ⟨.below parent.path node.path (ChainShape.of parent.isCollection node.shape)
      node.returnType :: rest, ?_⟩
    obtain ⟨path, ownerType, targetType, returnType, shape, children⟩ := node
    rw [resolveBelow, owner, returned, resolved]
    rfl

theorem Declared.resolveChain_error {node : IncludeNode} (h : node.Declared family owner) :
    errorOf? node.resolveChain =
      if maxChainDepth < node.depth then
        some (.unsupportedShape node.path "chain deeper than 8 links")
      else none := by
  rw [resolveChain]
  split
  next => rfl
  next =>
    cases h with
    | @node _ target _ link below =>
      obtain ⟨rest, resolved⟩ := resolveAllBelow_ok (.ofRoot node) node.children
        fun child mem => (below child mem).resolveBelow_ok (link.continues below child mem)
      rw [link.resolve, resolved]
      rfl

theorem Declared.resolves {node : IncludeNode} (navigable : Schema.Navigable family)
    (h : node.Declared family owner) :
    ∀ path ∈ node.linkPaths,
      ∃ links, Schema.resolveLinks? family owner (Text.split '.' path) = some links := by
  induction h with
  | @node owner target node link below ih =>
    obtain ⟨d, found, -, leads⟩ := link.relation
    -- Entities of one name are one entity, so the children are looked up where they are declared.
    have same : d.target = target :=
      navigable.distinct _ _ (leads.trans link.targetType)
    rw [linkPaths_eq]
    refine List.forall_mem_cons.2 ⟨⟨[d], navigable.resolve_own found⟩, ?_⟩
    rw [List.forall_mem_map]
    intro path mem
    obtain ⟨child, inside, mem⟩ := List.mem_flatMap.1 mem
    obtain ⟨links, resolved⟩ := ih child inside path mem
    rw [← same] at resolved
    exact ⟨d :: links, navigable.resolve_below found resolved⟩

end IncludeNode

namespace Relation

theorem toNode_linkDeclared {owner : Schema ι} {r : Relation ι} (h : r.isDeclared owner = true) :
    (r.toNode owner).LinkDeclared owner.family owner.root r.target where
  ownerType := rfl
  targetType := rfl
  returnType := rfl
  relation := by
    rw [isDeclared] at h
    split at h
    next d found =>
      obtain ⟨shape, target⟩ : d.shape = r.shape ∧
          (owner.family d.target).name = (owner.family r.target).name := by simpa using h
      exact ⟨d, found, shape, target⟩
    next => cases h

end Relation

namespace Chain

mutual

theorem toNode_declared (owner : Schema ι) : (chain : Chain ι) → chain.undeclared owner = [] →
    (chain.toNode owner).Declared owner.family owner.root
  | ⟨r, children⟩, h => by
    obtain ⟨own, below⟩ := List.append_eq_nil_iff.1 h
    have declared : r.isDeclared owner = true := by
      by_contra undeclared
      rw [if_neg undeclared] at own
      cases own
    have link := Relation.toNode_linkDeclared declared
    exact .node ⟨link.ownerType, link.targetType, link.relation, link.returnType⟩
      (toNodes_declared (owner.seenFrom r.target) children below)

theorem toNodes_declared (owner : Schema ι) : (chains : List (Chain ι)) →
    undeclaredOfAll owner chains = [] →
    ∀ node ∈ toNodes owner chains, node.Declared owner.family owner.root
  | [], _ => List.forall_mem_nil _
  | chain :: chains, h => by
    obtain ⟨first, later⟩ := List.append_eq_nil_iff.1 h
    exact List.forall_mem_cons.2
      ⟨toNode_declared owner chain first, toNodes_declared owner chains later⟩

end

end Chain

end EntityQuery
