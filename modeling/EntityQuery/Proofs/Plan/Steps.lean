import EntityQuery.Proofs.Expr.Folding
import EntityQuery.Proofs.Plan.Compile
import EntityQuery.Sample.Projection
import EntityQuery.Sample.Shop

set_option autoImplicit false

namespace EntityQuery

namespace Plan

def opsAt (plan : Plan) (n : Nat) : Plan :=
  plan.filter fun op => op.step = n

/-- At step `n` there is just this operation, or nothing unless it is asked for. -/
def AskedAt (plan : Plan) (n : Nat) (asked : Prop) (op : PlanOp) : Prop :=
  (asked → plan.opsAt n = [op]) ∧ (¬asked → plan.opsAt n = [])

def Staged : Nat → List Plan → Prop
  | _, [] => True
  | n, ops :: stages => (∀ op ∈ ops, op.step = n) ∧ Staged (n + 1) stages

theorem AskedAt.of_onlyIf {plan : Plan} {n : Nat} {asked : Bool} {configured : Prop} {op : PlanOp}
    (same : plan.opsAt n = onlyIf asked op) (asks : asked = true ↔ configured) :
    plan.AskedAt n configured op := by
  rw [AskedAt, same, ← asks]
  cases asked <;> simp [onlyIf]

theorem AskedAt.ne_nil_iff {plan : Plan} {n : Nat} {asked : Prop} {op : PlanOp}
    (h : plan.AskedAt n asked op) : plan.opsAt n ≠ [] ↔ asked := by
  by_cases configured : asked
  next => simp [configured, h.1 configured]
  next => simp [configured, h.2 configured]

theorem opsAt_eq_self {ops : Plan} {n : Nat} (uniform : ∀ op ∈ ops, op.step = n) :
    ops.opsAt n = ops := by
  simpa [opsAt, List.filter_eq_self] using uniform

theorem opsAt_eq_nil {ops : Plan} {n : Nat} (elsewhere : ∀ op ∈ ops, op.step ≠ n) :
    ops.opsAt n = [] := by
  simpa [opsAt, List.filter_eq_nil_iff] using elsewhere

theorem opsAt_append (ops later : Plan) (n : Nat) :
    opsAt (ops ++ later) n = ops.opsAt n ++ later.opsAt n :=
  List.filter_append ..

variable {n : Nat} {stages : List Plan}

theorem Staged.le_step (staged : Staged n stages) : ∀ op ∈ stages.flatten, n ≤ op.step := by
  induction stages generalizing n with
  | nil => simp
  | cons ops stages ih =>
    intro op mem
    rcases List.mem_append.1 mem with own | later
    · exact Nat.le_of_eq (staged.1 op own).symm
    · exact Nat.le_of_succ_le (ih staged.2 op later)

theorem Staged.ordered (staged : Staged n stages) :
    stages.flatten.Pairwise fun a b => a.step ≤ b.step := by
  induction stages generalizing n with
  | nil => exact .nil
  | cons ops stages ih =>
    obtain ⟨uniform, later⟩ := staged
    rw [List.flatten_cons, List.pairwise_append]
    refine ⟨?_, ih later, ?_⟩
    · apply List.pairwise_of_forall_mem_list
      intro a first b second
      exact Nat.le_of_eq ((uniform a first).trans (uniform b second).symm)
    · intro a first b second
      rw [uniform a first]
      exact Nat.le_of_succ_le (later.le_step b second)

theorem Staged.opsAt (staged : Staged n stages) (i : Nat) :
    Plan.opsAt stages.flatten (n + i) = stages[i]?.getD [] := by
  induction stages generalizing n i with
  | nil => rfl
  | cons ops stages ih =>
    obtain ⟨uniform, later⟩ := staged
    rw [List.flatten_cons, opsAt_append]
    -- One side has all operations of the step, and the other side none of them.
    cases i with
    | zero =>
      have noneLater : Plan.opsAt stages.flatten n = [] := by
        apply opsAt_eq_nil
        intro op mem
        exact Nat.ne_of_gt (later.le_step op mem)
      simpa [noneLater] using opsAt_eq_self uniform
    | succ i =>
      have noneHere : ops.opsAt (n + (i + 1)) = [] := by
        apply opsAt_eq_nil
        intro op mem
        rw [uniform op mem]
        omega
      rw [noneHere, List.nil_append, ← Nat.add_assoc, Nat.add_right_comm, ih later]
      rfl

theorem Staged.flatten_eq (staged : Staged n stages) :
    stages.flatten = (List.range' n stages.length).flatMap (Plan.opsAt stages.flatten) := by
  have each : (List.range' n stages.length).map (Plan.opsAt stages.flatten) = stages := by
    apply List.ext_getElem
    next => simp
    next =>
      intro i _ inside
      rw [List.getElem_map, List.getElem_range', Nat.one_mul, staged.opsAt i,
        List.getElem?_eq_getElem inside, Option.getD_some]
  rw [List.flatMap_def, each]

end Plan

theorem SearchClause.toExpr_ne_true_iff (s : SearchClause) :
    s.toExpr ≠ .const true ↔ Text.isBlankText s.term = false ∧ s.fields ≠ [] := by
  by_cases idle : (Text.isBlankText s.term || s.fields.isEmpty) = true
  next =>
    rw [toExpr, if_pos idle]
    simp only [Bool.or_eq_true, List.isEmpty_iff] at idle
    rcases idle with blank | empty <;> simp_all
  next =>
    simp only [Bool.or_eq_true, List.isEmpty_iff, not_or, Bool.not_eq_true] at idle
    simp only [idle, ne_eq, not_false_eq_true, and_self, iff_true]
    intro always
    -- Where every field is null, no field contains the term.
    have nowhere : s.toExpr.evaluate (fun _ => .null) = false := by
      simp [toExpr, idle, Expr.evaluate]
    rw [always, Expr.evaluate_const] at nowhere
    cases nowhere

namespace Specification

variable {ρ α : Type} [ResultTypes ρ] {spec : Specification ρ α} {plan : Plan}

theorem searchExpr_ne_true_iff (spec : Specification ρ α) :
    spec.searchExpr ≠ .const true ↔
      ∃ s, spec.search = some s ∧ Text.isBlankText s.term = false ∧ s.fields ≠ [] := by
  rw [searchExpr]
  cases spec.search with
  | none => simp
  | some s => simp [s.toExpr_ne_true_iff]

def stages (spec : Specification ρ α) (single chained : Plan) : List Plan :=
  let additional := Expr.all spec.additionalCriteria
  [onlyIf (spec.tracking ≠ .track) (.tracking spec.tracking),
    onlyIf spec.ignoreStoreFilters .ignoreStoreFilters,
    spec.tag.toList.map .tag,
    onlyIf spec.splitFetch .splitFetch,
    onlyIf (!spec.criteria.isTrue) (.filter spec.criteria),
    onlyIf (!additional.isTrue) (.criteria additional),
    onlyIf (!spec.searchExpr.isTrue) (.search spec.searchExpr),
    single,
    chained,
    spec.includeStrings.map .includePath,
    spec.groupKey.toList.map .groupBy,
    onlyIf spec.distinct .distinct,
    spec.orderingOps,
    spec.windowOps]

theorem stages_staged {single chained : Plan} (links : ∀ op ∈ single, op.step = 8)
    (chains : ∀ op ∈ chained, op.step = 9) : Plan.Staged 1 (spec.stages single chained) := by
  have alone {asked : Bool} {op : PlanOp} : ∀ op' ∈ onlyIf asked op, op'.step = op.step := by
    simp [mem_onlyIf]
  have each {β : Type} (make : β → PlanOp) (xs : List β) (n : Nat)
      (uniform : ∀ x, (make x).step = n) : ∀ op ∈ xs.map make, op.step = n := by
    simp [uniform]
  exact ⟨alone, alone, each _ _ _ fun _ => rfl, alone, alone, alone, alone, links, chains,
    each _ _ _ fun _ => rfl, each _ _ _ fun _ => rfl, alone, fun _ => orderingOps_step,
    fun _ => windowOps_step, trivial⟩

theorem compile_stages (h : spec.compile = .ok plan) :
    ∃ single chained, singleIncludes spec.includes = .ok single ∧
      chainIncludes spec.includeChains = .ok chained ∧
      plan = (spec.stages single chained).flatten := by
  obtain ⟨includes, resolved, rfl⟩ := compile_ok h
  simp only [includeOps, bind_ok_iff, pure_ok_iff] at resolved
  obtain ⟨single, links, chained, chains, rfl⟩ := resolved
  refine ⟨single, chained, links, chains, ?_⟩
  simp [stages, hints, predicates, shape]

structure Lays (spec : Specification ρ α) (plan : Plan) : Prop where
  ordered : plan.Pairwise fun a b => a.step ≤ b.step
  whole : plan = (List.range' 1 14).flatMap plan.opsAt
  tracking : plan.AskedAt 1 (spec.tracking ≠ .track) (.tracking spec.tracking)
  ignoreStoreFilters : plan.AskedAt 2 (spec.ignoreStoreFilters = true) .ignoreStoreFilters
  tag : plan.opsAt 3 = spec.tag.toList.map .tag
  splitFetch : plan.AskedAt 4 (spec.splitFetch = true) .splitFetch
  criteria : plan.AskedAt 5 (spec.criteria ≠ .const true) (.filter spec.criteria)
  additionalCriteria : plan.AskedAt 6 (Expr.all spec.additionalCriteria ≠ .const true)
    (.criteria (Expr.all spec.additionalCriteria))
  search : plan.AskedAt 7 (spec.searchExpr ≠ .const true) (.search spec.searchExpr)
  searches : plan.opsAt 7 ≠ [] ↔
    ∃ s, spec.search = some s ∧ Text.isBlankText s.term = false ∧ s.fields ≠ []
  includes : plan.opsAt 8 = spec.includes.map fun node =>
    .includeLink (.root node.path node.returnType node.shape)
  includeChains : ∃ trees : List (List IncludeOp),
    plan.opsAt 9 = trees.flatten.map .includeChainLink ∧
    List.Forall₂ (fun root links => root.resolveChain = .ok links ∧
      links.map IncludeOp.navigation = root.linkPaths) spec.includeChains trees
  includeStrings : plan.opsAt 10 = spec.includeStrings.map .includePath
  groupKey : plan.opsAt 11 = spec.groupKey.toList.map .groupBy
  distinct : plan.AskedAt 12 (spec.distinct = true) .distinct
  orderings : plan.opsAt 13 =
    spec.orderings.head?.toList.map .orderBy ++ spec.orderings.tail.map .thenBy
  window : plan.opsAt 14 = (spec.skip.filter (0 < ·)).toList.map .skip ++
    ((spec.take.map PlanOp.take).or (spec.limit.map .limit)).toList

theorem orderingOps_eq (spec : Specification ρ α) :
    spec.orderingOps =
      spec.orderings.head?.toList.map .orderBy ++ spec.orderings.tail.map .thenBy := by
  rw [orderingOps]
  cases spec.orderings <;> rfl

theorem windowOps_eq (spec : Specification ρ α) :
    spec.windowOps = (spec.skip.filter (0 < ·)).toList.map .skip ++
      ((spec.take.map PlanOp.take).or (spec.limit.map .limit)).toList := by
  have start : onlyIf (0 < spec.skip.getD 0) (.skip (spec.skip.getD 0)) =
      (spec.skip.filter (0 < ·)).toList.map .skip := by
    cases spec.skip with
    | none => rfl
    | some count => by_cases positive : 0 < count <;> simp [onlyIf, Option.filter, positive]
  rw [windowOps, start]
  cases spec.take <;> cases spec.limit <;> rfl

theorem compile_lays (h : spec.compile = .ok plan) : spec.Lays plan := by
  obtain ⟨single, chained, links, chains, rfl⟩ := compile_stages h
  have staged : Plan.Staged 1 (spec.stages single chained) :=
    stages_staged (singleIncludes_step links) (chainIncludes_step chains)
  obtain ⟨trees, resolved, chainOps⟩ := chainIncludes_ok chains
  have search : Plan.AskedAt (spec.stages single chained).flatten 7
      (spec.searchExpr ≠ .const true) (.search spec.searchExpr) :=
    .of_onlyIf (staged.opsAt 6) (Expr.not_isTrue_iff _)
  exact {
    ordered := staged.ordered
    whole := staged.flatten_eq
    tracking := .of_onlyIf (staged.opsAt 0) decide_eq_true_iff
    ignoreStoreFilters := .of_onlyIf (staged.opsAt 1) .rfl
    tag := staged.opsAt 2
    splitFetch := .of_onlyIf (staged.opsAt 3) .rfl
    criteria := .of_onlyIf (staged.opsAt 4) (Expr.not_isTrue_iff _)
    additionalCriteria := .of_onlyIf (staged.opsAt 5) (Expr.not_isTrue_iff _)
    search
    searches := search.ne_nil_iff.trans spec.searchExpr_ne_true_iff
    includes := (staged.opsAt 7).trans (singleIncludes_ok links)
    includeChains := ⟨trees, (staged.opsAt 8).trans chainOps, resolved.imp fun _ _ ok =>
      ⟨ok, IncludeNode.resolveChain_navigation ok⟩⟩
    includeStrings := staged.opsAt 9
    groupKey := staged.opsAt 10
    distinct := .of_onlyIf (staged.opsAt 11) .rfl
    orderings := (staged.opsAt 12).trans spec.orderingOps_eq
    window := (staged.opsAt 13).trans spec.windowOps_eq }

theorem compile_withoutPaging (h : spec.compile = .ok plan) :
    spec.withoutPaging.compile = .ok (plan.filter fun op => op.step ≠ 14) := by
  rw [compile_window, map_ok_iff] at h
  obtain ⟨base, compiles, rfl⟩ := h
  -- Here the shape is that of the specification without its window.
  have noWindow : base.opsAt 14 = [] := (compile_lays compiles).window
  have kept : base.filter (fun op => op.step ≠ 14) = base := by
    rw [Plan.opsAt, List.filter_eq_nil_iff] at noWindow
    simpa [List.filter_eq_self] using noWindow
  have dropped : spec.windowOps.filter (fun op => op.step ≠ 14) = [] := by
    rw [List.filter_eq_nil_iff]
    intro op mem
    simp [windowOps_step mem]
  rw [List.filter_append, kept, dropped, List.append_nil]
  exact compiles

/--
Every plan has the fixed shape, and without the window of the specification it only loses its last
step.
-/
theorem compile_fixed_steps (h : spec.compile = .ok plan) :
    spec.Lays plan ∧
      spec.withoutPaging.compile = .ok (plan.filter fun op => op.step ≠ 14) :=
  ⟨compile_lays h, compile_withoutPaging h⟩

section

open Sample

def everyStep : Specification ResultType Order where
  criteria := .compare "Status" .ne (.string "Cancelled")
  additionalCriteria := [.const true, .compare "Id" .gt (.integer 5)]
  includes := [.of "Customer" "Order" "Customer" .reference]
  includeChains := [(IncludeNode.of "Items" "Order" "OrderItem" .collection).withChild
    (.of "Product" "OrderItem" "Product" .reference)]
  includeStrings := ["Items.Product"]
  orderings := [⟨"Total", .descending⟩, ⟨"Number", .ascending⟩]
  paging := some ⟨10, some 10⟩
  limit := some 99
  groupKey := some "Status"
  distinct := true
  tracking := .noTrack
  ignoreStoreFilters := true
  splitFetch := true
  tag := some "orders"
  search := some ⟨" ada ", ["Customer.Name"]⟩
  selector := none

theorem everyStep_fixed_steps :
    ∃ plan, everyStep.compile = .ok plan ∧
      plan.map PlanOp.name = ["tracking", "ignore_store_filters", "tag", "split_fetch", "filter",
        "criteria", "search", "include", "chain_include", "chain_include", "include_path",
        "group_by", "distinct", "order_by", "then_by", "skip", "take"] ∧
      everyStep.Lays plan ∧
      everyStep.withoutPaging.compile = .ok (plan.filter fun op => op.step ≠ 14) :=
  ⟨_, rfl, rfl, compile_fixed_steps rfl⟩

end

end Specification

end EntityQuery
