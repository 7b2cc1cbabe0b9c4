import EntityQuery.Proofs.Specification.Answer
import EntityQuery.Proofs.Store.Settling

set_option autoImplicit false

namespace EntityQuery

variable {ι ρ α : Type} [ResultTypes ρ]

theorem PlanOp.step_of_isSort {op : PlanOp} {rowOp : RowOp}
    (works : op.refinement.rowOp? = some rowOp) (sorts : rowOp.isSort = true) : op.step = 13 := by
  cases op <;> cases works <;> first | rfl | cases sorts

namespace Specification

variable (E : Entity ι α) (storeFilter : Option Expr) (spec : Specification ρ α) (rows : List α)

/-- Every sort settles: the rows are few, or each key and those before it are an order of them. -/
def Sortable : Prop :=
  (spec.kept E storeFilter rows).length ≤ insertionLimit ∨
    ∀ keys, keys <+: spec.orderings → PreorderOn (E.compareBy keys) (spec.kept E storeFilter rows)

variable {E storeFilter spec rows}

theorem sortable_of_few (few : rows.length ≤ insertionLimit) : spec.Sortable E storeFilter rows :=
  .inl ((spec.kept_subperm E storeFilter rows).length_le.trans few)

theorem sortable_of_unmixed (unmixed : ∀ c ∈ spec.orderings, E.Unmixed c.field rows) :
    spec.Sortable E storeFilter rows := by
  refine .inr fun keys first => E.compareBy_preorderOn keys _ fun c mem => ?_
  exact (unmixed c (first.subset mem)).subset (spec.kept_subperm E storeFilter rows).subset

theorem no_sort_of_step {ops : Plan} (outside : ∀ op ∈ ops, op.step ≠ 13) :
    ∀ rowOp ∈ ops.filterMap (fun op => op.refinement.rowOp?), rowOp.isSort = false := by
  intro rowOp mem
  obtain ⟨op, within, works⟩ := List.mem_filterMap.1 mem
  by_contra sorts
  exact outside op within (PlanOp.step_of_isSort works (by simpa using sorts))

variable (E storeFilter spec rows)

theorem settles_orderingOps :
    RowOp.settles E [] (spec.orderingOps.filterMap fun op => op.refinement.rowOp?) rows = true ↔
      ∀ keys, keys <+: spec.orderings → keys ≠ [] →
        sortSettles (E.compareBy keys) rows = true := by
  rw [orderingOps]
  cases spec.orderings with
  | nil =>
    simp only [List.filterMap_nil, RowOp.settles, true_iff, List.prefix_nil]
    exact fun keys none given => absurd none given
  | cons primary more =>
    rw [← RowOp.settles_orderBy]
    simp [List.filterMap_map, PlanOp.refinement, Refinement.rowOp?]

theorem run_kept :
    RowOp.run E [] ((spec.predicates ++ spec.shape).filterMap fun op => op.refinement.rowOp?)
        (rows.filter fun row =>
          spec.ignoreStoreFilters || storeFilter.all fun e => E.satisfies e row) =
      spec.kept E storeFilter rows := by
  have shaped (some : List α) := RowOp.run_shape E spec [] [] some
  simp only [List.append_nil, RowOp.run] at shaped
  rw [List.filterMap_append, RowOp.run_predicates, List.filter_filter, shaped, kept]
  congr 3
  funext row
  rw [selects]
  ac_rfl

theorem settles_rowOps :
    RowOp.settles E [] spec.rowOps (rows.filter fun row =>
        spec.ignoreStoreFilters || storeFilter.all fun e => E.satisfies e row) = true ↔
      spec.Sortable E storeFilter rows := by
  have early : ∀ op ∈ spec.predicates ++ spec.shape, op.step ≠ 13 := by
    intro op mem
    rcases List.mem_append.1 mem with mem | mem
    · have := predicates_step mem
      omega
    · have := shape_step mem
      omega
  have late : ∀ op ∈ spec.windowOps, op.step ≠ 13 := fun op mem => by simp [windowOps_step mem]
  rw [rowOps, List.filterMap_append, RowOp.settles_append_no_sort E (no_sort_of_step late),
    List.filterMap_append, RowOp.settles_no_sort_append E (no_sort_of_step early), run_kept,
    settles_orderingOps]
  simp only [sortSettles_iff, Sortable]
  constructor
  · intro each
    refine or_iff_not_imp_left.2 fun many keys first => ?_
    by_cases none : keys = []
    next =>
      subst none
      exact E.compareBy_preorderOn [] _ (by simp)
    next => exact (each keys first none).resolve_left many
  · exact fun all keys first _ => all.imp_right fun order => order keys first

end Specification

end EntityQuery
