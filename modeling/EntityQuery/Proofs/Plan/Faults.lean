import EntityQuery.Proofs.Include.Resolve
import EntityQuery.Proofs.Plan.Compile

set_option autoImplicit false

namespace EntityQuery

variable {ι ρ α : Type} [ResultTypes ρ]

namespace Specification

def includePaths (spec : Specification ρ α) : List String :=
  spec.includes.map IncludeNode.path ++ spec.includeChains.flatMap IncludeNode.linkPaths ++
    spec.includeStrings

variable {nodes : List IncludeNode} {ops : Plan}

theorem singleIncludes_error (nodes : List IncludeNode) :
    errorOf? (singleIncludes nodes) = nodes.findSome? fun node => errorOf? node.resolve := by
  induction nodes with
  | nil => rfl
  | cons node nodes ih =>
    rw [singleIncludes, List.findSome?_cons, ← ih]
    cases node.resolve with
    | error e => rfl
    | ok op => cases singleIncludes nodes <;> rfl

theorem chainIncludes_error (nodes : List IncludeNode) :
    errorOf? (chainIncludes nodes) = nodes.findSome? fun node => errorOf? node.resolveChain := by
  induction nodes with
  | nil => rfl
  | cons node nodes ih =>
    rw [chainIncludes, List.findSome?_cons, ← ih]
    cases node.resolveChain with
    | error e => rfl
    | ok op => cases chainIncludes nodes <;> rfl

theorem filterMap_chainLinks (ops : List IncludeOp) :
    (ops.map PlanOp.includeChainLink).filterMap (fun op => op.refinement.path?) =
      ops.map IncludeOp.navigation := by
  induction ops with
  | nil => rfl
  | cons op ops ih =>
    rw [List.map_cons, List.filterMap_cons, ih]
    rfl

theorem singleIncludes_paths (h : singleIncludes nodes = .ok ops) :
    ops.filterMap (fun op => op.refinement.path?) = nodes.map IncludeNode.path := by
  rw [singleIncludes_ok h, List.filterMap_map]
  exact congrFun List.filterMap_eq_map nodes

theorem chainIncludes_paths (h : chainIncludes nodes = .ok ops) :
    ops.filterMap (fun op => op.refinement.path?) = nodes.flatMap IncludeNode.linkPaths := by
  obtain ⟨trees, resolved, rfl⟩ := chainIncludes_ok h
  rw [filterMap_chainLinks]
  clear h
  induction resolved with
  | nil => rfl
  | cons own _ ih =>
    rw [List.flatten_cons, List.map_append, ih, List.flatMap_cons,
      IncludeNode.resolveChain_navigation own]

def refusedLink? (spec : Specification ρ α) : Option ChainError :=
  (spec.includes.findSome? fun node => errorOf? node.resolve).or
    (spec.includeChains.findSome? fun root => errorOf? root.resolveChain)

def unknownPath? (s : Schema ι) (spec : Specification ρ α) : Option String :=
  spec.includePaths.find? fun path => (s.resolveRelations? path).isNone

variable {spec : Specification ρ α}

theorem includeOps_error (spec : Specification ρ α) :
    errorOf? spec.includeOps = spec.refusedLink? := by
  rw [includeOps, refusedLink?, ← singleIncludes_error, ← chainIncludes_error]
  cases singleIncludes spec.includes with
  | error e => rfl
  | ok single => cases chainIncludes spec.includeChains <;> rfl

theorem includeOps_paths (h : spec.includeOps = .ok ops) :
    ops.filterMap (fun op => op.refinement.path?) = spec.includePaths := by
  simp only [includeOps, bind_ok_iff, pure_ok_iff] at h
  obtain ⟨single, links, chained, chains, rfl⟩ := h
  rw [List.filterMap_append, List.filterMap_append, singleIncludes_paths links,
    chainIncludes_paths chains, List.filterMap_map, includePaths]
  exact congrArg _ List.filterMap_some

end Specification

namespace Query

variable {E : Entity ι α} {q : Query α} {r : Refinement} {rs : List Refinement} {path : String}

theorem refine_error (asked : r.path? = some path)
    (unknown : E.schema.resolveRelations? path = none) :
    q.refine E r = .error (.chain (.unresolvedPath path E.name)) := by
  cases r with
  | includeLink op | includePath path =>
    cases asked
    simp [refine, attach, unknown]
  | _ => cases asked

theorem refineAll_error
    (first : (rs.filterMap Refinement.path?).find?
      (fun path => (E.schema.resolveRelations? path).isNone) = some path) :
    q.refineAll E rs = .error (.chain (.unresolvedPath path E.name)) := by
  induction rs generalizing q with
  | nil => cases first
  | cons r rs ih =>
    rw [refineAll, List.foldlM_cons, bind_error_iff]
    cases asked : r.path? with
    | none =>
      rw [List.filterMap_cons_none asked] at first
      obtain ⟨next, step, -⟩ := refine_ok (E := E) (q := q) (r := r) (by simp [asked])
      exact .inr ⟨next, step, ih first⟩
    | some own =>
      rw [List.filterMap_cons_some asked, List.find?_cons] at first
      cases known : E.schema.resolveRelations? own with
      | none =>
        simp only [known, Option.isNone_none, Option.some.injEq] at first
        exact .inl (refine_error (first ▸ asked) (first ▸ known))
      | some links =>
        -- This path is attached, and the refinement that fails is a later one.
        simp only [known, Option.isNone_some] at first
        obtain ⟨next, step, -⟩ := refine_ok (E := E) (q := q) (r := r) (by simp [asked, known])
        exact .inr ⟨next, step, ih first⟩

end Query

end EntityQuery
