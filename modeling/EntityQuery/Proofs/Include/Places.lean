import EntityQuery.Proofs.Include.Resolve
import EntityQuery.Proofs.Text.Basic
import Mathlib.Data.List.Forall2

set_option autoImplicit false

namespace EntityQuery

namespace IncludeNode

structure Place where
  names : List String
  parent : Option IncludeNode
  node : IncludeNode

namespace Place

def path (p : Place) : String :=
  Text.join "." p.names

def isLeaf (p : Place) : Bool :=
  p.node.children.isEmpty

def ownerFault? (p : Place) : Option ChainError :=
  p.parent.bind fun parent =>
    if p.node.ownerType = parent.targetType then none
    else some (.ownerMismatch p.path parent.targetType p.node.ownerType)

def returnFault? (p : Place) : Option ChainError :=
  if p.node.returnType = p.node.shape.returnType p.node.targetType then none
  else
    some (.unsupportedShape p.node.path
      ("return type " ++ p.node.returnType ++ " does not match a " ++ p.node.shape.label ++
        " of " ++ p.node.targetType))

def fault? (p : Place) : Option ChainError :=
  p.ownerFault?.or p.returnFault?

structure LoadedBy (p : Place) (op : IncludeOp) : Prop where
  navigation : op.navigation = p.path
  kind : match p.parent, op with
    | none, .root name returnType shape =>
      name = p.node.path ∧ returnType = p.node.returnType ∧ shape = p.node.shape
    | some parent, .below _ name shape targetType =>
      name = p.node.path ∧ shape.parentIsCollection = parent.isCollectionLink ∧
        shape.childShape = p.node.shape ∧ targetType = p.node.returnType
    | _, _ => False

end Place

mutual

def placesUnder (above : List String) (parent : Option IncludeNode) : IncludeNode → List Place
  | ⟨name, ownerType, targetType, returnType, shape, children⟩ =>
    ⟨above ++ [name], parent, ⟨name, ownerType, targetType, returnType, shape, children⟩⟩ ::
      placesOfAll (above ++ [name]) ⟨name, ownerType, targetType, returnType, shape, children⟩
        children

def placesOfAll (above : List String) (parent : IncludeNode) : List IncludeNode → List Place
  | [] => []
  | node :: nodes => placesUnder above (some parent) node ++ placesOfAll above parent nodes

end

def places (root : IncludeNode) : List Place :=
  placesUnder [] none root

theorem placesUnder_eq (above : List String) (parent : Option IncludeNode) (node : IncludeNode) :
    placesUnder above parent node =
      ⟨above ++ [node.path], parent, node⟩ ::
        placesOfAll (above ++ [node.path]) node node.children := by
  cases node
  rw [placesUnder]

theorem places_eq (root : IncludeNode) :
    root.places = ⟨[root.path], none, root⟩ :: placesOfAll [root.path] root root.children :=
  placesUnder_eq [] none root

mutual

theorem placesUnder_parent (above : List String) (parent : IncludeNode) : (node : IncludeNode) →
    ∀ p ∈ placesUnder above (some parent) node, p.parent.isSome = true
  | ⟨name, _, _, _, _, children⟩ =>
    List.forall_mem_cons.2 ⟨rfl, placesOfAll_parent (above ++ [name]) _ children⟩

theorem placesOfAll_parent (above : List String) (parent : IncludeNode) :
    (nodes : List IncludeNode) → ∀ p ∈ placesOfAll above parent nodes, p.parent.isSome = true
  | [] => List.forall_mem_nil _
  | node :: nodes => List.forall_mem_append.2
    ⟨placesUnder_parent above parent node, placesOfAll_parent above parent nodes⟩

end

theorem Place.fault?_eq_none_iff (p : Place) :
    p.fault? = none ↔ p.node.returnType = p.node.shape.returnType p.node.targetType ∧
      ∀ parent ∈ p.parent, p.node.ownerType = parent.targetType := by
  rw [fault?, Option.or_eq_none_iff, ownerFault?, returnFault?]
  cases p.parent <;> simp [and_comm]

theorem firstFault_cons (p : Place) (later : List Place) :
    (p :: later).findSome? Place.fault? = p.fault?.or (later.findSome? Place.fault?) := by
  rw [List.findSome?_cons]
  cases p.fault? <;> rfl

def Parent.ofLink (names : List String) (node : IncludeNode) : Parent :=
  ⟨Text.join "." names, node.targetType, node.isCollectionLink⟩

theorem checkOwner_error (above : List String) (parent node : IncludeNode) :
    errorOf? (checkOwner (.ofLink above parent) (Text.join "." (above ++ [node.path]))
      node.ownerType) = Place.ownerFault? ⟨above ++ [node.path], some parent, node⟩ := by
  rw [checkOwner, Place.ownerFault?]
  change errorOf? (if node.ownerType = parent.targetType then _ else _) = _
  by_cases same : node.ownerType = parent.targetType
  next => simp [same, errorOf?]
  next => simp [same, errorOf?, Parent.ofLink, Place.path]

theorem checkReturnType_error (names : List String) (parent : Option IncludeNode)
    (node : IncludeNode) :
    errorOf? node.checkReturnType = Place.returnFault? ⟨names, parent, node⟩ := by
  rw [checkReturnType, Place.returnFault?]
  by_cases fits : node.returnType = node.shape.returnType node.targetType
  next => simp [fits, errorOf?]
  next => simp [fits, errorOf?]

theorem Parent.ofLink_below {above : List String} (rooted : above ≠ []) (parent node : IncludeNode) :
    (⟨(ofLink above parent).path ++ "." ++ node.path, node.targetType, node.shape.isCollection⟩ :
      Parent) = ofLink (above ++ [node.path]) node := by
  rw [ofLink, ofLink, Text.join_concat _ rooted]
  rfl

theorem resolveBelow_eq {above : List String} (rooted : above ≠ []) (parent node : IncludeNode) :
    resolveBelow (.ofLink above parent) node = do
      checkOwner (.ofLink above parent) (Text.join "." (above ++ [node.path])) node.ownerType
      node.checkReturnType
      let rest ← resolveAllBelow (.ofLink (above ++ [node.path]) node) node.children
      return .below (Text.join "." above) node.path
        (ChainShape.of parent.isCollectionLink node.shape) node.returnType :: rest := by
  rw [← Parent.ofLink_below rooted parent, Text.join_concat _ rooted]
  cases node
  rw [resolveBelow]
  rfl

theorem resolveBelow_error_of_children {above : List String} (rooted : above ≠ [])
    (parent node : IncludeNode)
    (below : errorOf? (resolveAllBelow (.ofLink (above ++ [node.path]) node) node.children) =
      (placesOfAll (above ++ [node.path]) node node.children).findSome? Place.fault?) :
    errorOf? (resolveBelow (.ofLink above parent) node) =
      (placesUnder above (some parent) node).findSome? Place.fault? := by
  rw [resolveBelow_eq rooted, placesUnder_eq, firstFault_cons, ← below, Place.fault?,
    ← checkOwner_error, ← checkReturnType_error, Option.or_assoc]
  exact errorOf?_bind fun _ _ => errorOf?_bind fun _ _ => errorOf?_bind_pure _ _

mutual

theorem resolveBelow_error {above : List String} (rooted : above ≠ []) (parent : IncludeNode) :
    (node : IncludeNode) → errorOf? (resolveBelow (.ofLink above parent) node) =
      (placesUnder above (some parent) node).findSome? Place.fault?
  | ⟨name, ownerType, targetType, returnType, shape, children⟩ =>
    resolveBelow_error_of_children rooted parent
      ⟨name, ownerType, targetType, returnType, shape, children⟩
      (resolveAllBelow_error (List.concat_ne_nil name above) _ children)

theorem resolveAllBelow_error {above : List String} (rooted : above ≠ []) (parent : IncludeNode) :
    (nodes : List IncludeNode) → errorOf? (resolveAllBelow (.ofLink above parent) nodes) =
      (placesOfAll above parent nodes).findSome? Place.fault?
  | [] => rfl
  | node :: nodes => by
    rw [resolveAllBelow, placesOfAll, List.findSome?_append, ← resolveBelow_error rooted parent node,
      ← resolveAllBelow_error rooted parent nodes]
    exact errorOf?_bind fun _ _ => errorOf?_bind_pure _ _

end

theorem resolveChain_error (root : IncludeNode) :
    errorOf? root.resolveChain =
      if maxChainDepth < root.depth then
        some (.unsupportedShape root.path "chain deeper than 8 links")
      else root.places.findSome? Place.fault? := by
  rw [resolveChain]
  split
  next => rfl
  next =>
    have below := resolveAllBelow_error (List.cons_ne_nil root.path []) root root.children
    rw [places_eq, firstFault_cons, ← below, Place.fault?, ← checkReturnType_error]
    have own : errorOf? root.resolve = errorOf? root.checkReturnType := errorOf?_bind_pure _ _
    exact (errorOf?_bind fun _ _ => errorOf?_bind_pure _ _).trans (congrArg (Option.or · _) own)

theorem loadedBy_below {above : List String} (rooted : above ≠ []) (parent node : IncludeNode) :
    Place.LoadedBy ⟨above ++ [node.path], some parent, node⟩
      (.below (Text.join "." above) node.path (ChainShape.of parent.isCollectionLink node.shape)
        node.returnType) where
  navigation := (Text.join_concat _ rooted _).symm
  kind := by
    refine ⟨rfl, ?_, ?_, rfl⟩ <;> cases parent.isCollectionLink <;> cases node.shape <;> rfl

theorem loadedBy_root (root : IncludeNode) :
    Place.LoadedBy ⟨[root.path], none, root⟩ (.root root.path root.returnType root.shape) where
  navigation := rfl
  kind := ⟨rfl, rfl, rfl⟩

mutual

theorem resolveBelow_loads {above : List String} (rooted : above ≠ []) (parent : IncludeNode) :
    (node : IncludeNode) → {ops : List IncludeOp} →
    resolveBelow (.ofLink above parent) node = .ok ops →
    List.Forall₂ Place.LoadedBy (placesUnder above (some parent) node) ops
  | ⟨name, ownerType, targetType, returnType, shape, children⟩, ops, h => by
    simp only [resolveBelow_eq rooted, bind_ok_iff, pure_ok_iff] at h
    obtain ⟨-, -, -, -, rest, resolved, rfl⟩ := h
    have below := resolveAllBelow_loads (List.concat_ne_nil name above) _ children resolved
    rw [placesUnder]
    exact .cons (loadedBy_below rooted parent
      ⟨name, ownerType, targetType, returnType, shape, children⟩) below

theorem resolveAllBelow_loads {above : List String} (rooted : above ≠ []) (parent : IncludeNode) :
    (nodes : List IncludeNode) → {ops : List IncludeOp} →
    resolveAllBelow (.ofLink above parent) nodes = .ok ops →
    List.Forall₂ Place.LoadedBy (placesOfAll above parent nodes) ops
  | [], ops, h => by
    cases h
    exact .nil
  | node :: nodes, ops, h => by
    simp only [resolveAllBelow, bind_ok_iff, pure_ok_iff] at h
    obtain ⟨own, first, rest, later, rfl⟩ := h
    exact List.rel_append (resolveBelow_loads rooted parent node first)
      (resolveAllBelow_loads rooted parent nodes later)

end

theorem below_of_hangs {places : List Place} {ops : List IncludeOp}
    (hang : ∀ p ∈ places, p.parent.isSome = true)
    (loads : List.Forall₂ Place.LoadedBy places ops) :
    ∀ op ∈ ops, ∃ parentPath name shape targetType, op = .below parentPath name shape targetType := by
  induction loads with
  | nil => exact List.forall_mem_nil _
  | @cons p op _ _ own _ ih =>
    obtain ⟨first, later⟩ := List.forall_mem_cons.1 hang
    refine List.forall_mem_cons.2 ⟨?_, ih later⟩
    cases op with
    | below parentPath name shape targetType => exact ⟨_, _, _, _, rfl⟩
    | root name returnType shape =>
      obtain ⟨parent, above⟩ := Option.isSome_iff_exists.1 first
      have impossible := own.kind
      rw [above] at impossible
      cases impossible

theorem resolveChain_ok {root : IncludeNode} {ops : List IncludeOp}
    (h : root.resolveChain = .ok ops) :
    ∃ rest, ops = .root root.path root.returnType root.shape :: rest ∧
      List.Forall₂ Place.LoadedBy (placesOfAll [root.path] root root.children) rest := by
  rw [resolveChain] at h
  split at h
  next => cases h
  next =>
    simp only [bind_ok_iff, pure_ok_iff] at h
    obtain ⟨op, own, rest, below, rfl⟩ := h
    obtain rfl := resolve_ok own
    exact ⟨rest, rfl, resolveAllBelow_loads (List.cons_ne_nil root.path []) root _ below⟩

mutual

theorem placesUnder_leaves (above : List String) (parent : Option IncludeNode) :
    (node : IncludeNode) → ((placesUnder above parent node).filter Place.isLeaf).map Place.path =
      node.paths.map fun path => Text.join "." (above ++ [path])
  | ⟨name, ownerType, targetType, returnType, shape, []⟩ => rfl
  | ⟨name, ownerType, targetType, returnType, shape, child :: children⟩ => by
    have below := placesOfAll_leaves (above ++ [name])
      ⟨name, ownerType, targetType, returnType, shape, child :: children⟩ (child :: children)
    -- The link itself is no leaf, and its name comes before every path below it.
    rw [placesUnder, List.filter_cons_of_neg (by simp [Place.isLeaf]), below, paths, pathsOfAll,
      List.map_map]
    exact List.map_congr_left fun path _ => Text.join_concat_concat _ _ _ _

theorem placesOfAll_leaves (above : List String) (parent : IncludeNode) :
    (nodes : List IncludeNode) →
    ((placesOfAll above parent nodes).filter Place.isLeaf).map Place.path =
      (pathsOfAll nodes).map fun path => Text.join "." (above ++ [path])
  | [] => rfl
  | node :: nodes => by
    simp only [placesOfAll, pathsOfAll, List.filter_append, List.map_append,
      placesUnder_leaves above (some parent) node, placesOfAll_leaves above parent nodes]

end

theorem places_leaves (root : IncludeNode) :
    (root.places.filter Place.isLeaf).map Place.path = root.paths := by
  rw [places, placesUnder_leaves]
  exact List.map_id _

theorem leaf_navigations {places : List Place} {ops : List IncludeOp}
    (loads : List.Forall₂ Place.LoadedBy places ops) :
    ((places.zip ops).filter fun load => load.1.isLeaf).map (fun load => load.2.navigation) =
      (places.filter Place.isLeaf).map Place.path := by
  induction loads with
  | nil => rfl
  | @cons p op _ _ own _ ih =>
    rw [List.zip_cons_cons, List.filter_cons, List.filter_cons]
    cases leaf : p.isLeaf with
    | true => simp [ih, own.navigation]
    | false => simp [ih]

/-- A tree resolves if and only if it is not too deep and each of its links starts where the link
above leads to and returns what its shape says. Every link then has one operation, parents before
children, and those of the leaves go to the ends of the paths. If a tree does not resolve, its depth
is the error, or else the first fault of its links. -/
theorem resolveChain_exact (root : IncludeNode) :
    ((∃ ops, root.resolveChain = .ok ops) ↔
        root.depth ≤ maxChainDepth ∧ ∀ p ∈ root.places,
          p.node.returnType = p.node.shape.returnType p.node.targetType ∧
            ∀ parent ∈ p.parent, p.node.ownerType = parent.targetType) ∧
      (∀ ops, root.resolveChain = .ok ops →
        List.Forall₂ Place.LoadedBy root.places ops ∧
          (∃ rest, ops = .root root.path root.returnType root.shape :: rest ∧ ∀ op ∈ rest,
            ∃ parentPath name shape targetType, op = .below parentPath name shape targetType) ∧
          ((root.places.zip ops).filter fun load => load.1.isLeaf).map
            (fun load => load.2.navigation) = root.paths) ∧
      errorOf? root.resolveChain =
        if maxChainDepth < root.depth then
          some (.unsupportedShape root.path "chain deeper than 8 links")
        else root.places.findSome? Place.fault? := by
  refine ⟨?_, fun ops resolved => ?_, resolveChain_error root⟩
  · rw [← errorOf?_eq_none_iff, resolveChain_error]
    by_cases deep : maxChainDepth < root.depth
    next => simp [deep, Nat.not_le.2 deep]
    next => simp [deep, List.findSome?_eq_none_iff, Place.fault?_eq_none_iff, Nat.not_lt.1 deep]
  · obtain ⟨rest, rfl, below⟩ := resolveChain_ok resolved
    have loads : List.Forall₂ Place.LoadedBy root.places
        (.root root.path root.returnType root.shape :: rest) := by
      rw [places_eq]
      exact .cons (loadedBy_root root) below
    exact ⟨loads, ⟨rest, rfl, below_of_hangs (placesOfAll_parent _ _ _) below⟩,
      (leaf_navigations loads).trans (places_leaves root)⟩

end IncludeNode

end EntityQuery
