import EntityQuery.Plan.Compile
import EntityQuery.Proofs.Except
import EntityQuery.Proofs.Include.Resolve
import EntityQuery.Proofs.Store.Query
import Mathlib.Data.List.Forall2

set_option autoImplicit false

namespace EntityQuery

namespace PlanOp

theorem rowOp_eq_none {op : PlanOp} (h : op.step ≤ 4 ∨ 8 ≤ op.step ∧ op.step ≤ 10) :
    op.refinement.rowOp? = none := by
  cases op <;> simp [step, refinement, Refinement.rowOp?] at h ⊢

theorem path_eq_none {op : PlanOp} (h : op.step ≤ 7 ∨ 11 ≤ op.step) :
    op.refinement.path? = none := by
  cases op <;> simp [step, refinement, Refinement.path?] at h ⊢

theorem optsOut_iff (op : PlanOp) : op.refinement.optsOut = true ↔ op.step = 2 := by
  cases op <;> simp [step, refinement, Refinement.optsOut]

def isAboutLoading : PlanOp → Bool
  | tracking _ => true
  | tag _ => true
  | splitFetch => true
  | includeLink _ => true
  | includeChainLink _ => true
  | includePath _ => true
  | _ => false

theorem refinement_of_isAboutLoading {op : PlanOp} (h : op.isAboutLoading = true) :
    op.refinement.rowOp? = none ∧ op.refinement.optsOut = false := by
  cases op <;> simp [isAboutLoading, refinement, Refinement.rowOp?, Refinement.optsOut] at h ⊢

end PlanOp

theorem filterMap_onlyIf {β : Type} (f : PlanOp → Option β) (asked : Bool) (op : PlanOp) :
    (onlyIf asked op).filterMap f = if asked then (f op).toList else [] := by
  cases asked with
  | false => rfl
  | true => cases h : f op <;> simp [onlyIf, h]

theorem mem_onlyIf {asked : Bool} {op op' : PlanOp} :
    op ∈ onlyIf asked op' ↔ asked = true ∧ op = op' := by
  cases asked <;> simp [onlyIf]

namespace Specification

variable {ρ α : Type} [ResultTypes ρ] {spec : Specification ρ α}

theorem hints_step {op : PlanOp} (h : op ∈ spec.hints) : op.step ≤ 4 := by
  simp only [hints, List.mem_append, mem_onlyIf, List.mem_map, Option.mem_toList] at h
  rcases h with ((⟨-, rfl⟩ | ⟨-, rfl⟩) | ⟨mark, -, rfl⟩) | ⟨-, rfl⟩ <;> simp [PlanOp.step]

theorem predicates_step {op : PlanOp} (h : op ∈ spec.predicates) : 5 ≤ op.step ∧ op.step ≤ 7 := by
  simp only [predicates, List.mem_append, mem_onlyIf] at h
  rcases h with (⟨-, rfl⟩ | ⟨-, rfl⟩) | ⟨-, rfl⟩ <;> simp [PlanOp.step]

theorem singleIncludes_ok {nodes : List IncludeNode} {ops : Plan}
    (h : singleIncludes nodes = .ok ops) :
    ops = nodes.map fun node => .includeLink (.root node.path node.returnType node.shape) := by
  induction nodes generalizing ops with
  | nil =>
    cases h
    rfl
  | cons node nodes ih =>
    simp only [singleIncludes, bind_ok_iff, pure_ok_iff] at h
    obtain ⟨op, resolved, rest, later, rfl⟩ := h
    obtain rfl := IncludeNode.resolve_ok resolved
    rw [ih later, List.map_cons]

theorem singleIncludes_step {nodes : List IncludeNode} {ops : Plan}
    (h : singleIncludes nodes = .ok ops) : ∀ op ∈ ops, op.step = 8 := by
  rw [singleIncludes_ok h]
  intro op mem
  obtain ⟨node, -, rfl⟩ := List.mem_map.1 mem
  rfl

theorem chainIncludes_ok {nodes : List IncludeNode} {ops : Plan}
    (h : chainIncludes nodes = .ok ops) :
    ∃ trees : List (List IncludeOp),
      List.Forall₂ (fun root links => root.resolveChain = .ok links) nodes trees ∧
        ops = trees.flatten.map .includeChainLink := by
  induction nodes generalizing ops with
  | nil =>
    cases h
    exact ⟨[], .nil, rfl⟩
  | cons node nodes ih =>
    simp only [chainIncludes, bind_ok_iff, pure_ok_iff] at h
    obtain ⟨links, resolved, rest, later, rfl⟩ := h
    obtain ⟨trees, each, rfl⟩ := ih later
    exact ⟨links :: trees, .cons resolved each, by simp⟩

theorem chainIncludes_step {nodes : List IncludeNode} {ops : Plan}
    (h : chainIncludes nodes = .ok ops) : ∀ op ∈ ops, op.step = 9 := by
  obtain ⟨trees, -, rfl⟩ := chainIncludes_ok h
  intro op mem
  obtain ⟨link, -, rfl⟩ := List.mem_map.1 mem
  rfl

theorem includeOps_step {ops : Plan} (h : spec.includeOps = .ok ops) :
    ∀ op ∈ ops, 8 ≤ op.step ∧ op.step ≤ 10 := by
  simp only [includeOps, bind_ok_iff, pure_ok_iff] at h
  obtain ⟨ones, single, links, chained, rfl⟩ := h
  intro op mem
  rcases List.mem_append.1 mem with mem | mem
  · rcases List.mem_append.1 mem with mem | mem
    · simp [singleIncludes_step single op mem]
    · simp [chainIncludes_step chained op mem]
  · obtain ⟨path, -, rfl⟩ := List.mem_map.1 mem
    simp [PlanOp.step]

theorem shape_step {op : PlanOp} (h : op ∈ spec.shape) : 11 ≤ op.step ∧ op.step ≤ 12 := by
  simp only [shape, List.mem_append, mem_onlyIf, List.mem_map, Option.mem_toList] at h
  rcases h with ⟨key, -, rfl⟩ | ⟨-, rfl⟩ <;> simp [PlanOp.step]

theorem orderingOps_step {op : PlanOp} (h : op ∈ spec.orderingOps) : op.step = 13 := by
  rw [orderingOps] at h
  split at h
  · cases h
  · rcases List.mem_cons.1 h with rfl | later
    · rfl
    · obtain ⟨c, -, rfl⟩ := List.mem_map.1 later
      rfl

theorem windowOps_step {op : PlanOp} (h : op ∈ spec.windowOps) : op.step = 14 := by
  simp only [windowOps, List.mem_append, mem_onlyIf] at h
  rcases h with ⟨-, rfl⟩ | bound
  · rfl
  · split at bound <;> simp_all [PlanOp.step]

theorem compile_ok {plan : Plan} (h : spec.compile = .ok plan) :
    ∃ includes, spec.includeOps = .ok includes ∧
      plan = spec.hints ++ spec.predicates ++ includes ++ spec.shape ++ spec.orderingOps ++
        spec.windowOps := by
  rw [compile] at h
  split at h
  next includes resolved => exact ⟨includes, resolved, (Except.ok.inj h).symm⟩
  next => cases h

theorem compile_of_includeOps {includes : Plan} (resolved : spec.includeOps = .ok includes) :
    ∃ plan, spec.compile = .ok plan := by
  rw [compile, resolved]
  exact ⟨_, rfl⟩

def rowOps (spec : Specification ρ α) : List RowOp :=
  (spec.predicates ++ spec.shape ++ spec.orderingOps ++ spec.windowOps).filterMap
    fun op => op.refinement.rowOp?

theorem compile_rowOps {plan : Plan} (h : spec.compile = .ok plan) :
    (plan.map PlanOp.refinement).filterMap Refinement.rowOp? = spec.rowOps := by
  obtain ⟨includes, resolved, rfl⟩ := compile_ok h
  have noHints : spec.hints.filterMap (fun op => op.refinement.rowOp?) = [] :=
    List.filterMap_eq_nil_iff.2 fun op mem => PlanOp.rowOp_eq_none (.inl (hints_step mem))
  have noIncludes : includes.filterMap (fun op => op.refinement.rowOp?) = [] :=
    List.filterMap_eq_nil_iff.2 fun op mem =>
      PlanOp.rowOp_eq_none (.inr (includeOps_step resolved op mem))
  simp only [List.filterMap_map, Function.comp_def, List.filterMap_append, noHints, noIncludes,
    rowOps, List.nil_append, List.append_nil]

theorem compile_optsOut {plan : Plan} (h : spec.compile = .ok plan) :
    (plan.map PlanOp.refinement).any Refinement.optsOut = spec.ignoreStoreFilters := by
  obtain ⟨includes, resolved, rfl⟩ := compile_ok h
  have hinted : .ignoreStoreFilters ∈ spec.hints ↔ spec.ignoreStoreFilters = true := by
    simp [hints, mem_onlyIf]
  rw [Bool.eq_iff_iff, ← hinted]
  simp only [List.any_map, List.any_eq_true, Function.comp_apply, PlanOp.optsOut_iff,
    List.mem_append]
  constructor
  · -- Only hints come that early.
    rintro ⟨op, ((((mem | mem) | mem) | mem) | mem) | mem, second⟩
    · cases op <;> simp [PlanOp.step] at second
      exact mem
    · have := predicates_step mem
      omega
    · have := includeOps_step resolved op mem
      omega
    · have := shape_step mem
      omega
    · have := orderingOps_step mem
      omega
    · have := windowOps_step mem
      omega
  · exact fun mem => ⟨.ignoreStoreFilters, by simp [mem], rfl⟩

theorem windowOps_path (spec : Specification ρ α) :
    (spec.windowOps.map PlanOp.refinement).filterMap Refinement.path? = [] := by
  rw [List.filterMap_map, List.filterMap_eq_nil_iff]
  intro op mem
  exact PlanOp.path_eq_none (.inr (by have := windowOps_step mem; omega))

theorem compile_window (spec : Specification ρ α) :
    spec.compile = spec.withoutPaging.compile.map (· ++ spec.windowOps) := by
  have sameIncludes : spec.withoutPaging.includeOps = spec.includeOps := rfl
  have noWindow : spec.withoutPaging.windowOps = [] := rfl
  rw [compile, compile, sameIncludes, noWindow]
  cases spec.includeOps with
  | error e => rfl
  | ok includes =>
    simp only [List.append_nil]
    rfl

theorem compile_paths {plan includes : Plan} (resolved : spec.includeOps = .ok includes)
    (h : spec.compile = .ok plan) :
    (plan.map PlanOp.refinement).filterMap Refinement.path? =
      includes.filterMap fun op => op.refinement.path? := by
  obtain ⟨includes', resolved', rfl⟩ := compile_ok h
  obtain rfl := Except.ok.inj (resolved.symm.trans resolved')
  have pathless (ops : Plan) (outside : ∀ op ∈ ops, op.step ≤ 7 ∨ 11 ≤ op.step) :
      ops.filterMap (fun op => op.refinement.path?) = [] :=
    List.filterMap_eq_nil_iff.2 fun op mem => PlanOp.path_eq_none (outside op mem)
  have hints := pathless spec.hints fun op mem => by have := hints_step mem; omega
  have predicates := pathless spec.predicates fun op mem => by have := predicates_step mem; omega
  have shape := pathless spec.shape fun op mem => by have := shape_step mem; omega
  have orderings := pathless spec.orderingOps fun op mem => by have := orderingOps_step mem; omega
  have window := pathless spec.windowOps fun op mem => by have := windowOps_step mem; omega
  simp only [List.filterMap_map, Function.comp_def, List.filterMap_append, hints, predicates, shape,
    orderings, window, List.nil_append, List.append_nil]

end Specification

end EntityQuery
