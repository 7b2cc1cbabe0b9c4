import EntityQuery.Proofs.Repository.Faults
import EntityQuery.Proofs.Store.Distinct
import EntityQuery.Sample.Projection

set_option autoImplicit false

namespace EntityQuery

variable {ι ρ α : Type} [ResultTypes ρ]

namespace RowOp

theorem run_sorting_perm (E : Entity ι α) {ops : List RowOp}
    (sorting : ∀ op ∈ ops, ∃ c, op = .orderBy c ∨ op = .thenBy c) (keys : List SortCriterion)
    (rows : List α) : (run E keys ops rows).Perm rows := by
  induction ops generalizing keys rows with
  | nil => exact .refl rows
  | cons op ops ih =>
    have rest := ih fun op mem => sorting op (List.mem_cons_of_mem _ mem)
    obtain ⟨c, rfl | rfl⟩ := sorting op (List.mem_cons_self ..)
    · exact (rest _ _).trans (E.perm_sortRows _ rows)
    · exact (rest _ _).trans (E.perm_sortRows _ rows)

end RowOp

namespace Specification

def narrow (spec : Specification ρ α) (e : Expr) (sorts : List SortCriterion) : Specification ρ α :=
  { spec with
    additionalCriteria := spec.additionalCriteria ++ if e.isTrue then [] else [e]
    orderings := spec.orderings ++ sorts }

variable {E : Entity ι α} {storeFilter : Option Expr} {spec : Specification ρ α}

theorem orderingOps_sorting (spec : Specification ρ α) :
    ∀ op ∈ spec.orderingOps.filterMap fun op => op.refinement.rowOp?,
      ∃ c, op = .orderBy c ∨ op = .thenBy c := by
  rw [orderingOps]
  cases spec.orderings with
  | nil => simp
  | cons primary more =>
    simp [PlanOp.refinement, Refinement.rowOp?]

theorem selects_iff {row : α} :
    spec.selects E storeFilter row = true ↔
      (spec.ignoreStoreFilters = false → ∀ e ∈ storeFilter, E.satisfies e row = true) ∧
        E.satisfies spec.criteria row = true ∧
        (∀ e ∈ spec.additionalCriteria, E.satisfies e row = true) ∧
        ∀ clause ∈ spec.search, clause.accepts E row = true := by
  rw [selects, E.satisfies_toExpr]
  cases spec.ignoreStoreFilters <;> cases storeFilter <;> cases spec.search <;>
    simp [Entity.satisfies, and_assoc]

theorem selects_of_narrow {e : Expr} {sorts : List SortCriterion} {row : α}
    (h : (spec.narrow e sorts).selects E storeFilter row = true) :
    spec.selects E storeFilter row = true := by
  rw [selects_iff] at h ⊢
  obtain ⟨shown, criteria, additional, search⟩ := h
  exact ⟨shown, criteria, fun e mem => additional e (List.mem_append_left _ mem), search⟩

theorem length_deduplicated_le (spec : Specification ρ α) {some rows : List α}
    (sub : some.Subperm rows) :
    (spec.deduplicated E (spec.grouped E some)).length ≤
      (spec.deduplicated E (spec.grouped E rows)).length := by
  have groups : (spec.grouped E some).Subperm (spec.grouped E rows) :=
    (spec.grouped_perm E some).subperm.trans (sub.trans (spec.grouped_perm E rows).symm.subperm)
  rw [deduplicated, deduplicated]
  split
  next =>
    rw [← E.distinctRows_eq_eraseDupsBy, ← E.distinctRows_eq_eraseDupsBy]
    exact Entity.length_distinctRows_le groups
  next => exact groups.length_le

end Specification

namespace Repository

variable {r : Repository ι α} {spec : Specification ρ α} {cancelled : Bool}

theorem findMany_run {rows : List α} (found : r.findMany spec cancelled = .ok rows) :
    rows = RowOp.run r.entity [] ((spec.shape ++ spec.orderingOps ++ spec.windowOps).filterMap
      fun op => op.refinement.rowOp?)
        (r.store.rows.filter (spec.selects r.entity r.store.storeFilter)) := by
  obtain ⟨q, prepared, executed⟩ := findMany_ok_iff.1 found
  obtain ⟨pipeline, -, stored, filter, ignore⟩ := prepare_ok prepared
  obtain ⟨-, -, rfl⟩ := Query.execute_ok executed
  rw [pipeline, visibleRows_eq, stored, filter, ignore, run_selected]

theorem findMany_selects {rows : List α} (found : r.findMany spec cancelled = .ok rows) :
    ∀ row ∈ rows, spec.selects r.entity r.store.storeFilter row = true := by
  intro row mem
  rw [findMany_run found] at mem
  exact (List.mem_filter.1 ((RowOp.run_subperm r.entity _ _ _).subset mem)).2

theorem count_run {total : Nat} (counted : r.count spec cancelled = .ok total) :
    total = (spec.kept r.entity r.store.storeFilter r.store.rows).length := by
  rw [count_eq_length, map_ok_iff] at counted
  obtain ⟨rows, found, rfl⟩ := counted
  have noWindow : spec.withoutPaging.windowOps = [] := rfl
  rw [findMany_run found, noWindow, List.append_nil, List.filterMap_append, RowOp.run_shape]
  exact (RowOp.run_sorting_perm r.entity spec.orderingOps_sorting [] _).length_eq

theorem count_narrow_le {e : Expr} {sorts : List SortCriterion} {fewer : Nat}
    (counted : r.count (spec.narrow e sorts) cancelled = .ok fewer) :
    ∃ total, r.count spec cancelled = .ok total ∧ fewer ≤ total := by
  -- What can go wrong does not depend on criteria and keys.
  have faultless : errorOf? (r.count spec cancelled) = none := by
    have outcome : errorOf? (r.count (spec.narrow e sorts) cancelled) = none :=
      errorOf?_eq_none_iff.2 ⟨fewer, counted⟩
    rw [count_error] at outcome ⊢
    exact outcome
  obtain ⟨total, all⟩ := errorOf?_eq_none_iff.1 faultless
  refine ⟨total, all, ?_⟩
  rw [count_run counted, count_run all]
  refine spec.length_deduplicated_le (List.Sublist.subperm ?_)
  exact List.monotone_filter_right _ fun row => Specification.selects_of_narrow

end Repository

namespace Builder

theorem build_applyFilterModel {b b' : Builder ι ρ α} {base narrowed : Specification ρ α}
    {model : FilterModel} {config : QueryConfig} (built : b.build = .ok base)
    (applied : b.applyFilterModel model config = .ok b') (rebuilt : b'.build = .ok narrowed) :
    ∃ e, FilterCompiler.compile ⟨b.schema, config⟩ model = .ok e ∧
      narrowed = base.narrow e (FilterCompiler.compileSorts ⟨b.schema, config⟩ model.sorts) := by
  obtain ⟨-, rfl⟩ := build_ok built
  obtain ⟨-, rfl⟩ := build_ok rebuilt
  obtain ⟨e, compiled, -, -, spec⟩ := applyFilterModel_ok applied
  refine ⟨e, compiled, ?_⟩
  rw [spec, Specification.narrow]
  cases e.isTrue <;> simp

/-- However a model is written, a query that it is applied to keeps all that it asked for: at most
one criterion is added, the old keys decide before the new ones, every row that is found satisfies
the old criteria, and the rows are no more than before. -/
theorem applyFilterModel_narrows {b b' : Builder ι ρ α} {base narrowed : Specification ρ α}
    {model : FilterModel} {config : QueryConfig} (built : b.build = .ok base)
    (applied : b.applyFilterModel model config = .ok b') (rebuilt : b'.build = .ok narrowed) :
    (∃ e sorts, FilterCompiler.compile ⟨b.schema, config⟩ model = .ok e ∧
      FilterCompiler.compileSorts ⟨b.schema, config⟩ model.sorts = sorts ∧
      narrowed = base.narrow e sorts ∧
      ∀ E : Entity ι α, E.compareBy narrowed.orderings =
        compareLex (E.compareBy base.orderings) (E.compareBy sorts)) ∧
      ∀ (r : Repository ι α) (cancelled : Bool),
        (∀ rows, r.findMany narrowed cancelled = .ok rows → ∀ row ∈ rows,
          r.entity.satisfies base.criteria row = true ∧
            (∀ e ∈ base.additionalCriteria, r.entity.satisfies e row = true) ∧
            (∀ clause ∈ base.search, clause.accepts r.entity row = true) ∧
            (base.ignoreStoreFilters = false → r.store.Shows r.entity row)) ∧
          ∀ fewer, r.count narrowed cancelled = .ok fewer →
            ∃ total, r.count base cancelled = .ok total ∧ fewer ≤ total := by
  obtain ⟨e, compiled, rfl⟩ := build_applyFilterModel built applied rebuilt
  refine ⟨⟨e, _, compiled, rfl, rfl, fun E => E.compareBy_append _ _⟩, fun r cancelled => ⟨?_, ?_⟩⟩
  · intro rows found row mem
    have selected := Specification.selects_of_narrow (Repository.findMany_selects found row mem)
    obtain ⟨shown, criteria, additional, search⟩ := Specification.selects_iff.1 selected
    exact ⟨criteria, additional, search, shown⟩
  · intro fewer counted
    exact Repository.count_narrow_le counted

section

open Sample

def ownedNode (id : Int64) (score : Binary64) (owner : String) : Node :=
  ⟨[("Id", .integer id), ("Score", .float score), ("Owner.Name", .string owner)]⟩

def ownedNodes : Repository Kind Node where
  entity := nodes
  store := (Store.ofRows [ownedNode 1 .zero "Ann", ownedNode 1 .zero "Bob",
    ownedNode 2 (.quietNaN false) "Bob", ownedNode 2 (.quietNaN false) "Bob",
    ownedNode 30 .zero "Bob"]).withStoreFilter (.compare "Id" .lt (.integer 9))
  config := .default

def differentNodes : Builder Kind ResultType Node :=
  ((start nodes.schema).distinct).orderBy "id" .descending

def bobsModel : FilterModel :=
  ((FilterModel.empty.whereField "owner.name" .equals "Bob").sortBy "score" .ascending).sortBy
    "secret" .ascending

-- The node that stands for the first class is Ann's before, and Bob's after.
theorem bobsNodes_narrow :
    ∃ b base narrowed, differentNodes.build = .ok base ∧
      differentNodes.applyFilterModel bobsModel .default = .ok b ∧ b.build = .ok narrowed ∧
      (ownedNodes.findMany base false).map (List.map fun n => n.value "Owner.Name") =
        .ok [.string "Bob", .string "Bob", .string "Ann"] ∧
      (ownedNodes.findMany narrowed false).map (List.map fun n => n.value "Owner.Name") =
        .ok [.string "Bob", .string "Bob", .string "Bob"] ∧
      ownedNodes.count narrowed false = .ok 3 ∧
      ∃ total, ownedNodes.count base false = .ok total ∧ 3 ≤ total := by
  have found : (differentNodes.applyFilterModel bobsModel .default >>= fun b => b.build >>=
      fun narrowed => ownedNodes.findMany narrowed false >>= fun rows =>
        (ownedNodes.count narrowed false).map fun count =>
          (rows.map fun n => n.value "Owner.Name", count)) =
      .ok ([.string "Bob", .string "Bob", .string "Bob"], 3) := by
    decide +kernel
  simp only [bind_ok_iff, map_ok_iff] at found
  obtain ⟨b, applied, narrowed, rebuilt, rows, read, count, counted, shown⟩ := found
  obtain ⟨owners, rfl⟩ := Prod.mk.inj shown
  have built : differentNodes.build = .ok differentNodes.spec := rfl
  have before : (ownedNodes.findMany differentNodes.spec false).map
      (List.map fun n => n.value "Owner.Name") =
      .ok [.string "Bob", .string "Bob", .string "Ann"] := by
    decide +kernel
  obtain ⟨-, reads⟩ := applyFilterModel_narrows built applied rebuilt
  refine ⟨b, _, narrowed, built, applied, rebuilt, before, ?_, counted, ?_⟩
  · rw [read]
    exact congrArg Except.ok owners
  · exact (reads ownedNodes false).2 3 counted

end

end Builder

end EntityQuery
