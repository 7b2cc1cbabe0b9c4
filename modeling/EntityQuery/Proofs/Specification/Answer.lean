import EntityQuery.Proofs.Composition
import EntityQuery.Proofs.Plan.Compile
import EntityQuery.Proofs.Store.Rows
import EntityQuery.Repository
import EntityQuery.Sample.Projection
import EntityQuery.Sample.Record

set_option autoImplicit false

namespace EntityQuery

variable {ι ρ α : Type} [ResultTypes ρ]

namespace SearchClause

def accepts (E : Entity ι α) (s : SearchClause) (row : α) : Bool :=
  Text.isBlankText s.term || s.fields.isEmpty ||
    s.fields.any fun f => E.satisfies (.text f .contains (Text.trim s.term)) row

end SearchClause

namespace Specification

def selects (E : Entity ι α) (storeFilter : Option Expr) (spec : Specification ρ α) (row : α) :
    Bool :=
  (spec.ignoreStoreFilters || storeFilter.all fun e => E.satisfies e row) &&
    E.satisfies spec.toExpr row && spec.search.all fun s => s.accepts E row

def grouped (E : Entity ι α) (spec : Specification ρ α) (rows : List α) : List α :=
  match spec.groupKey with
  | some key => E.groupRows key rows
  | none => rows

def deduplicated (E : Entity ι α) (spec : Specification ρ α) (rows : List α) : List α :=
  if spec.distinct then
    rows.eraseDupsBy fun row old => Value.sameList (E.scalarValues old) (E.scalarValues row)
  else rows

theorem grouped_perm (E : Entity ι α) (spec : Specification ρ α) (rows : List α) :
    (spec.grouped E rows).Perm rows := by
  rw [grouped]
  split
  · exact E.perm_groupRows _ rows
  · exact .refl rows

theorem deduplicated_sublist (E : Entity ι α) (spec : Specification ρ α) (rows : List α) :
    (spec.deduplicated E rows).Sublist rows := by
  rw [deduplicated]
  split
  · rw [← E.distinctRows_eq_eraseDupsBy]
    exact E.distinctRows_sublist rows
  · exact .refl rows

def kept (E : Entity ι α) (storeFilter : Option Expr) (spec : Specification ρ α)
    (rows : List α) : List α :=
  spec.deduplicated E (spec.grouped E (rows.filter (spec.selects E storeFilter)))

theorem kept_subperm (E : Entity ι α) (storeFilter : Option Expr) (spec : Specification ρ α)
    (rows : List α) : (spec.kept E storeFilter rows).Subperm rows := by
  have unique := (spec.deduplicated_sublist E
    (spec.grouped E (rows.filter (spec.selects E storeFilter)))).subperm
  have grouped := (spec.grouped_perm E (rows.filter (spec.selects E storeFilter))).subperm
  exact (unique.trans grouped).trans List.filter_sublist.subperm

def window (spec : Specification ρ α) (rows : List α) : List α :=
  let rest := rows.drop (spec.skip.getD 0).toNat
  match spec.take, spec.limit with
  | some size, _ => rest.take size.toNat
  | none, some limit => rest.take limit.toNat
  | none, none => rest

/-- What a specification asks of the rows of a store: one stable sort of the selected rows, by all
keys in turn, and a window of it. -/
def answer (E : Entity ι α) (storeFilter : Option Expr) (spec : Specification ρ α)
    (rows : List α) : List α :=
  let kept := rows.filter (spec.selects E storeFilter)
  let unique := spec.deduplicated E (spec.grouped E kept)
  spec.window (unique.mergeSort fun a b => (E.compareBy spec.orderings a b).isLE)

end Specification

namespace Entity

variable (E : Entity ι α) (spec : Specification ρ α) (row : α)

theorem satisfies_toExpr :
    E.satisfies spec.toExpr row =
      (E.satisfies spec.criteria row && E.satisfies (.all spec.additionalCriteria) row) := by
  simp [satisfies]

theorem satisfies_searchExpr :
    E.satisfies spec.searchExpr row = spec.search.all fun s => s.accepts E row := by
  rw [Specification.searchExpr]
  cases spec.search with
  | none => simp [satisfies]
  | some s =>
    change E.satisfies s.toExpr row = s.accepts E row
    rw [SearchClause.toExpr, SearchClause.accepts]
    split
    next nothing => simp [satisfies, nothing]
    next something =>
      have used : (Text.isBlankText s.term || s.fields.isEmpty) = false := by simpa using something
      rw [used, Bool.false_or, satisfies, Expr.evaluate_any, List.any_map]
      rfl

end Entity

namespace RowOp

variable (E : Entity ι α)

theorem run_onlyIf_filter (keys : List SortCriterion) (e : Expr) (op : PlanOp)
    (h : op.refinement.rowOp? = some (.filter e)) (ops : List RowOp) (rows : List α) :
    run E keys ((onlyIf (!e.isTrue) op).filterMap (fun op => op.refinement.rowOp?) ++ ops) rows =
      run E keys ops (rows.filter (E.satisfies e)) := by
  rw [filterMap_onlyIf]
  cases trivial : e.isTrue with
  | false => simp [h, run]
  | true =>
    -- A predicate that is left out would have kept every row.
    rw [Expr.isTrue_iff] at trivial
    subst trivial
    have keep : rows.filter (E.satisfies (.const true)) = rows :=
      List.filter_eq_self.2 fun row _ => by simp [Entity.satisfies]
    simp [keep]

variable (spec : Specification ρ α) (keys : List SortCriterion) (ops : List RowOp) (rows : List α)

theorem run_predicates :
    run E keys (spec.predicates.filterMap (fun op => op.refinement.rowOp?) ++ ops) rows =
      run E keys ops (rows.filter fun row =>
        E.satisfies spec.toExpr row && spec.search.all fun s => s.accepts E row) := by
  simp only [Specification.predicates, List.filterMap_append, List.append_assoc]
  rw [run_onlyIf_filter E keys _ _ rfl, run_onlyIf_filter E keys _ _ rfl,
    run_onlyIf_filter E keys _ _ rfl, List.filter_filter, List.filter_filter]
  congr 2
  funext row
  rw [E.satisfies_toExpr, ← E.satisfies_searchExpr]
  ac_rfl

theorem run_shape :
    run E keys (spec.shape.filterMap (fun op => op.refinement.rowOp?) ++ ops) rows =
      run E keys ops (spec.deduplicated E (spec.grouped E rows)) := by
  simp only [Specification.shape, List.filterMap_append, filterMap_onlyIf,
    Specification.deduplicated, Specification.grouped]
  cases spec.groupKey <;> cases spec.distinct <;>
    simp [PlanOp.refinement, Refinement.rowOp?, run, E.distinctRows_eq_eraseDupsBy]

theorem run_thenBy (more : List SortCriterion) (h : ∀ c ∈ keys ++ more, E.Unmixed c.field rows) :
    run E keys ((more.map PlanOp.thenBy).filterMap (fun op => op.refinement.rowOp?) ++ ops)
        (E.sortRows keys rows) =
      run E (keys ++ more) ops (E.sortRows (keys ++ more) rows) := by
  induction more generalizing keys with
  | nil => simp
  | cons c more ih =>
    have next := ih (keys ++ [c]) (by simpa using h)
    have merged := E.sortRows_extend keys [c] [] rows fun d mem => h d (by
      simp only [List.append_nil, List.mem_append, List.mem_singleton] at mem
      rcases mem with old | rfl
      · simp [old]
      · simp)
    simp only [List.append_nil] at merged
    simp only [List.append_assoc, List.singleton_append] at next
    rw [← next]
    simp [PlanOp.refinement, Refinement.rowOp?, run, merged]

theorem run_orderings (h : ∀ c ∈ spec.orderings, E.Unmixed c.field rows) :
    run E [] (spec.orderingOps.filterMap (fun op => op.refinement.rowOp?) ++ ops) rows =
      run E spec.orderings ops (E.sortRows spec.orderings rows) := by
  rw [Specification.orderingOps]
  cases keys : spec.orderings with
  | nil => simp [E.sortRows_nil]
  | cons primary more =>
    have rest := run_thenBy E [primary] ops rows more (by simpa [keys] using h)
    simp only [List.singleton_append] at rest
    rw [← rest]
    simp [PlanOp.refinement, Refinement.rowOp?, run]

theorem run_window :
    run E keys (spec.windowOps.filterMap fun op => op.refinement.rowOp?) rows =
      spec.window rows := by
  have skipped (ops : List RowOp) :
      run E keys ((onlyIf (0 < spec.skip.getD 0) (.skip (spec.skip.getD 0))).filterMap
        (fun op => op.refinement.rowOp?) ++ ops) rows =
      run E keys ops (rows.drop (spec.skip.getD 0).toNat) := by
    rw [filterMap_onlyIf]
    by_cases some : 0 < spec.skip.getD 0
    · simp [some, PlanOp.refinement, Refinement.rowOp?, run]
    · have zero : (spec.skip.getD 0).toNat = 0 := by
        rw [UInt64.lt_iff_toNat_lt] at some
        simpa using some
      simp [some, zero]
  simp only [Specification.windowOps, List.filterMap_append, skipped, Specification.window]
  cases spec.take <;> cases spec.limit <;> simp [PlanOp.refinement, Refinement.rowOp?, run]

end RowOp

namespace Repository

variable {r : Repository ι α} {spec : Specification ρ α}

theorem visibleRows_eq (E : Entity ι α) (q : Query α) :
    q.visibleRows E = q.rows.filter fun row =>
      q.ignoreStoreFilters || q.storeFilter.all fun e => E.satisfies e row := by
  have all : q.rows.filter (fun _ => true) = q.rows := List.filter_eq_self.2 fun _ _ => rfl
  rw [Query.visibleRows]
  cases q.storeFilter <;> cases q.ignoreStoreFilters <;> simp [all]

theorem run_selected (E : Entity ι α) (spec : Specification ρ α) (rows : List α)
    (storeFilter : Option Expr) :
    RowOp.run E [] spec.rowOps (rows.filter fun row =>
        spec.ignoreStoreFilters || storeFilter.all fun e => E.satisfies e row) =
      RowOp.run E [] ((spec.shape ++ spec.orderingOps ++ spec.windowOps).filterMap
        fun op => op.refinement.rowOp?) (rows.filter (spec.selects E storeFilter)) := by
  simp only [Specification.rowOps, List.filterMap_append, List.append_assoc]
  rw [RowOp.run_predicates, List.filter_filter]
  congr 2
  funext row
  rw [Specification.selects]
  ac_rfl

theorem run_rowOps (E : Entity ι α) (rows : List α)
    (h : ∀ c ∈ spec.orderings, E.Unmixed c.field rows) (storeFilter : Option Expr) :
    RowOp.run E [] spec.rowOps (rows.filter fun row =>
        spec.ignoreStoreFilters || storeFilter.all fun e => E.satisfies e row) =
      spec.answer E storeFilter rows := by
  have unmixed : ∀ c ∈ spec.orderings, E.Unmixed c.field (spec.kept E storeFilter rows) :=
    fun c mem => (h c mem).subset (spec.kept_subperm E storeFilter rows).subset
  rw [run_selected]
  simp only [List.filterMap_append, List.append_assoc]
  rw [RowOp.run_shape, ← Specification.kept, RowOp.run_orderings E spec _ _ unmixed,
    RowOp.run_window, E.sortRows_eq_mergeSort _ _ unmixed]
  rfl

/-- A plan that compiles and applies, run against a store without a fault, finds the answer of its
specification; and what a plan asks about tracking, tags, fetching and includes changes no rows. -/
theorem findMany_refines (r : Repository ι α) (spec : Specification ρ α) (plan : Plan)
    (q : Query α) (compiles : spec.compile = .ok plan)
    (applies : plan.apply r.entity r.store.query = .ok q) (faultless : r.store.fault = none)
    (unmixed : ∀ c ∈ spec.orderings, r.entity.Unmixed c.field r.store.rows) :
    r.findMany spec false = .ok (spec.answer r.entity r.store.storeFilter r.store.rows) ∧
      ∀ op : PlanOp, op.isAboutLoading = true → ∀ before after : Query α,
        before.refine r.entity op.refinement = .ok after → ∀ cancelled,
          after.toList r.entity cancelled = before.toList r.entity cancelled := by
  constructor
  · have extended := Query.refineAll_extends applies
    have live : q.fault = none := extended.fault.trans faultless
    have visible : q.visibleRows r.entity = r.store.rows.filter fun row =>
        spec.ignoreStoreFilters || r.store.storeFilter.all fun e => r.entity.satisfies e row := by
      rw [visibleRows_eq, extended.rows, extended.storeFilter, extended.ignoreStoreFilters,
        Specification.compile_optsOut compiles]
      rfl
    have pipeline : q.pipeline = spec.rowOps := by
      rw [extended.pipeline, Specification.compile_rowOps compiles]
      rfl
    have prepared : r.prepare spec = .ok q := bind_ok_iff.2 ⟨plan, compiles, applies⟩
    rw [findMany, bind_ok_iff]
    refine ⟨q, prepared, ?_⟩
    rw [Query.toList, Query.execute, live, pipeline, visible, run_rowOps _ _ unmixed]
    rfl
  · intro op loading before after refined cancelled
    obtain ⟨noRowOp, noOptOut⟩ := PlanOp.refinement_of_isAboutLoading loading
    apply (Query.refine_extends refined).execute_eq
    · simp [noRowOp]
    · simpa using noOptOut

section

open Sample

def countersRepository : Repository Kind Counter where
  entity := counters
  store := (Store.ofRows [⟨2, none⟩, ⟨1, some .zero⟩, ⟨2, none⟩, ⟨3, none⟩]).withStoreFilter
    (.compare "Id" .lt (.integer 9))
  config := .default

def secondCounter : Specification ResultType Counter :=
  { Specification.all with
    criteria := .not (.null "Id" false)
    groupKey := some "Ratio"
    distinct := true
    orderings := [⟨"Id", .descending⟩, ⟨"Ratio", .ascending⟩]
    paging := some ⟨1, some 1⟩
    limit := some 5
    tag := some "sample" }

theorem findMany_secondCounter :
    ∃ plan q, secondCounter.compile = .ok plan ∧
      plan.apply counters countersRepository.store.query = .ok q ∧
      countersRepository.store.fault = none ∧
      (∀ c ∈ secondCounter.orderings, counters.Unmixed c.field countersRepository.store.rows) ∧
      countersRepository.findMany secondCounter false =
        .ok (secondCounter.answer counters countersRepository.store.storeFilter
          countersRepository.store.rows) ∧
      countersRepository.findMany secondCounter false = .ok [⟨2, none⟩] := by
  have unmixed : ∀ c ∈ secondCounter.orderings,
      counters.Unmixed c.field countersRepository.store.rows := by
    unfold Entity.Unmixed
    decide
  exact ⟨_, _, rfl, rfl, rfl, unmixed,
    (findMany_refines countersRepository secondCounter _ _ rfl rfl rfl unmixed).1, rfl⟩

end

end Repository

end EntityQuery
