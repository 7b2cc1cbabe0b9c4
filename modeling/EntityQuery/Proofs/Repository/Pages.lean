import EntityQuery.Proofs.Repository.Outcome
import Mathlib.Algebra.Order.Floor.Div

set_option autoImplicit false

namespace EntityQuery

variable {ι ρ α : Type} [ResultTypes ρ]

namespace Count

theorem toNat_saturatingMul (a b : Count) :
    (saturatingMul a b).toNat = min (a.toNat * b.toNat) limit := by
  rw [saturatingMul, UInt64.toNat_ofNat']
  apply Nat.mod_eq_of_lt
  rw [limit]
  omega

theorem toNat_pos {n : Count} (positive : n ≠ 0) : 0 < n.toNat :=
  Nat.pos_of_ne_zero fun zero => positive (UInt64.toNat_inj.1 zero)

end Count

theorem PageResult.totalPages_of {items : List α} {index size total : Nat} (positive : 0 < size) :
    (of items index size total).totalPages = total ⌈/⌉ size := by
  rw [of, if_neg positive.ne', Nat.ceilDiv_eq_add_pred_div]

namespace Query

variable {E : Entity ι α} {spec : Specification ρ α} {q q' : Query α}

theorem Extends.execute_window (h : Extends q q' (spec.windowOps.map PlanOp.refinement))
    (cancelled : Bool) : q'.execute E cancelled = (q.execute E cancelled).map spec.window := by
  have optsOut : (spec.windowOps.map PlanOp.refinement).any Refinement.optsOut = false := by
    rw [List.any_map, List.any_eq_false]
    intro op mem optsOut
    have late := Specification.windowOps_step mem
    have early := (PlanOp.optsOut_iff op).1 optsOut
    omega
  have visible : q'.visibleRows E = q.visibleRows E := by
    rw [visibleRows, visibleRows, h.rows, h.storeFilter, h.ignoreStoreFilters, optsOut,
      Bool.or_false]
  -- The sort keys so far do not matter: a window sorts nothing.
  obtain ⟨keys, run⟩ := RowOp.run_append E [] q.pipeline (q.visibleRows E)
  have windowed : RowOp.run E [] q'.pipeline (q'.visibleRows E) =
      spec.window (RowOp.run E [] q.pipeline (q.visibleRows E)) := by
    rw [h.pipeline, visible, run, List.filterMap_map]
    exact RowOp.run_window E spec keys _
  rw [execute, execute, h.fault, windowed]
  cases cancelled with
  | true => rfl
  | false => cases q.fault <;> rfl

end Query

namespace Specification

def paged (spec : Specification ρ α) (pageIndex pageSize : Count) : Specification ρ α :=
  { spec with paging := some (.page ⟨pageIndex, pageSize⟩) }

theorem window_paged (spec : Specification ρ α) (pageIndex pageSize : Count) {rows : List α}
    (countable : rows.length ≤ Count.limit) :
    (spec.paged pageIndex pageSize).window rows =
      (rows.drop (pageIndex.toNat * pageSize.toNat)).take pageSize.toNat := by
  change (rows.drop (Count.saturatingMul pageIndex pageSize).toNat).take pageSize.toNat = _
  rw [Count.toNat_saturatingMul]
  by_cases fits : pageIndex.toNat * pageSize.toNat ≤ Count.limit
  next => rw [Nat.min_eq_left fits]
  next =>
    -- The offset that counts and the exact one are both past the last row.
    have past : rows.drop Count.limit = [] := List.drop_eq_nil_of_le countable
    have beyond : rows.drop (pageIndex.toNat * pageSize.toNat) = [] :=
      List.drop_eq_nil_of_le (by omega)
    rw [Nat.min_eq_right (by omega), past, beyond]

def pageOf (spec : Specification ρ α) (rows : List α) (pageIndex pageSize : Count) :
    PageResult α :=
  let paged := spec.paged pageIndex pageSize
  .of (paged.window rows) (paged.pageIndex.getD 0).toNat pageSize.toNat rows.length

end Specification

theorem flatMap_pages (rows : List α) (size count : Nat) :
    (List.range count).flatMap (fun n => (rows.drop (n * size)).take size) =
      rows.take (count * size) := by
  induction count with
  | zero => simp
  | succ count ih =>
    rw [List.range_succ, List.flatMap_append, ih, List.flatMap_singleton, Nat.succ_mul,
      List.take_add]

structure Paginates (rows : List α) (size : Count) (page : Count → PageResult α) : Prop where
  items : ∀ i, (page i).items = (rows.drop (i.toNat * size.toNat)).take size.toNat
  totalCount : ∀ i, (page i).totalCount = rows.length
  totalPages : ∀ i, (page i).totalPages = rows.length ⌈/⌉ size.toNat
  covers : (List.range (rows.length ⌈/⌉ size.toNat)).flatMap (fun n => (page (.ofNat n)).items) =
    rows

theorem covers_of_items {rows : List α} (countable : rows.length ≤ Count.limit) {size : Count}
    (positive : 0 < size.toNat) {page : Count → PageResult α}
    (items : ∀ i, (page i).items = (rows.drop (i.toNat * size.toNat)).take size.toNat) :
    (List.range (rows.length ⌈/⌉ size.toNat)).flatMap (fun n => (page (.ofNat n)).items) =
      rows := by
  -- There are not more pages than rows, so every page has an index.
  have atMost : rows.length ⌈/⌉ size.toNat ≤ Count.limit :=
    (ceilDiv_le_iff_le_mul positive).2 (countable.trans (Nat.le_mul_of_pos_left _ positive))
  have indexed : ∀ n ∈ List.range (rows.length ⌈/⌉ size.toNat),
      (page (.ofNat n)).items = (rows.drop (n * size.toNat)).take size.toNat := by
    intro n mem
    have small : n < 2 ^ 64 := by
      rw [List.mem_range] at mem
      rw [Count.limit] at atMost
      omega
    rw [items, UInt64.toNat_ofNat', Nat.mod_eq_of_lt small]
  have enough : rows.length ≤ rows.length ⌈/⌉ size.toNat * size.toNat := by
    rw [Nat.mul_comm]
    exact (ceilDiv_le_iff_le_mul positive).1 le_rfl
  rw [List.flatMap_congr indexed, flatMap_pages, List.take_of_length_le enough]

theorem Specification.pageOf_paginates (spec : Specification ρ α) {rows : List α}
    (countable : rows.length ≤ Count.limit) {size : Count} (sized : size ≠ 0) :
    Paginates rows size fun i => spec.pageOf rows i size := by
  have positive : 0 < size.toNat := Count.toNat_pos sized
  have items (i : Count) : (spec.pageOf rows i size).items =
      (rows.drop (i.toNat * size.toNat)).take size.toNat := spec.window_paged i size countable
  exact ⟨items, fun _ => rfl, fun _ => PageResult.totalPages_of positive,
    covers_of_items countable positive items⟩

namespace PageRequest

theorem clamped_eq {config : QueryConfig} (pageIndex : Count) {pageSize : Count}
    (sized : pageSize ≠ 0) (bounded : pageSize ≤ config.maxPageSize) :
    clamped ⟨pageIndex, pageSize⟩ config = ⟨pageIndex, pageSize⟩ := by
  simp only [clamped, if_neg sized, if_neg (UInt64.not_lt.2 bounded)]

end PageRequest

namespace Builder

theorem paginate_eq (b : Builder ι ρ α) (pageIndex : Count) {pageSize : Count}
    (sized : pageSize ≠ 0) :
    b.paginate pageIndex pageSize = { b with spec := b.spec.paged pageIndex pageSize } := by
  rw [paginate, if_neg sized]
  rfl

end Builder

namespace Repository

variable {r : Repository ι α} {spec : Specification ρ α} {cancelled : Bool}

theorem prepare_window (r : Repository ι α) (spec : Specification ρ α) :
    r.prepare spec = r.prepare spec.withoutPaging >>= fun q =>
      q.refineAll r.entity (spec.windowOps.map PlanOp.refinement) := by
  rw [prepare, prepare, Specification.compile_window]
  cases spec.withoutPaging.compile with
  | error e => rfl
  | ok plan =>
    change Query.refineAll r.entity r.store.query _ = Query.refineAll r.entity r.store.query _ >>= _
    rw [List.map_append, Query.refineAll, List.foldlM_append]
    rfl

theorem findMany_window (r : Repository ι α) (spec : Specification ρ α) (cancelled : Bool) :
    r.findMany spec cancelled = (r.findMany spec.withoutPaging cancelled).map spec.window := by
  rw [findMany, findMany, prepare_window]
  cases r.prepare spec.withoutPaging with
  | error e => rfl
  | ok q =>
    -- The window asks for no links, so nothing can keep it from being applied.
    have noPath : ∀ path ∈ (spec.windowOps.map PlanOp.refinement).filterMap Refinement.path?,
        ∃ links, r.entity.schema.resolveRelations? path = some links := by
      rw [Specification.windowOps_path]
      simp
    obtain ⟨q', refined, -⟩ := Query.refineAll_ok (q := q) noPath
    have extended := Query.refineAll_extends refined
    have executed := extended.execute_window (E := r.entity) cancelled
    change (Query.refineAll r.entity q _ >>= fun q => ofStore (q.toList r.entity cancelled)) =
      (ofStore (q.execute r.entity cancelled)).map _
    rw [refined]
    change ofStore (q'.execute r.entity cancelled) = _
    rw [executed]
    cases q.execute r.entity cancelled <;> rfl

theorem length_le_of_findMany {rows : List α} (h : r.findMany spec cancelled = .ok rows) :
    rows.length ≤ r.store.rows.length := by
  obtain ⟨q, prepared, executed⟩ := findMany_ok_iff.1 h
  obtain ⟨-, -, rfl⟩ := Query.execute_ok executed
  obtain ⟨-, -, all, -⟩ := prepare_ok prepared
  have shown : (q.visibleRows r.entity).length ≤ r.store.rows.length := by
    rw [visibleRows_eq, all]
    exact List.length_filter_le _ _
  exact (RowOp.run_subperm r.entity [] _ _).length_le.trans shown

theorem findPaged_eq (r : Repository ι α) {size : Count} (sized : spec.pageSize = some size)
    (cancelled : Bool) :
    r.findPaged spec cancelled = (r.findMany spec.withoutPaging cancelled).map fun rows =>
      .of (spec.window rows) (spec.pageIndex.getD 0).toNat size.toNat rows.length := by
  rw [findPaged, sized]
  dsimp only
  rw [count_eq_length, findMany_window r spec]
  cases r.findMany spec.withoutPaging cancelled <;> rfl

theorem findPaged_paged (r : Repository ι α) (spec : Specification ρ α) (i size : Count)
    (cancelled : Bool) :
    r.findPaged (spec.paged i size) cancelled =
      (r.findMany spec.withoutPaging cancelled).map fun rows => spec.pageOf rows i size :=
  @findPaged_eq _ _ _ _ (spec.paged i size) r size rfl cancelled

theorem settles_paged (r : Repository ι α) (spec : Specification ρ α) (i size : Count)
    (cancelled : Bool) :
    Read.findPaged.settles r (spec.paged i size) cancelled = r.settles spec cancelled id := by
  have takes : ((Read.findPaged : Read ρ).ownFaults (spec.paged i size)).findSome? id = none := rfl
  calc Read.findPaged.settles r (spec.paged i size) cancelled
    _ = r.settles (spec.paged i size) cancelled id := Read.findPaged.settles_eq takes
    _ = r.settles spec.withoutPaging cancelled id := (settles_withoutPaging ..).symm
    _ = r.settles spec cancelled id := settles_withoutPaging ..

theorem prepare_of_no_includes (r : Repository ι α) (bare : spec.includeOps = .ok []) :
    ∃ q, r.prepare spec = .ok q := by
  obtain ⟨plan, compiles⟩ := Specification.compile_of_includeOps bare
  have paths := Specification.compile_paths bare compiles
  have known : ∀ path ∈ (plan.map PlanOp.refinement).filterMap Refinement.path?,
      ∃ links, r.entity.schema.resolveRelations? path = some links := by
    simp [paths]
  obtain ⟨q, applies, -⟩ := Query.refineAll_ok (q := r.store.query) known
  exact ⟨q, bind_ok_iff.2 ⟨plan, compiles, applies⟩⟩

theorem findMany_of_prepare {q : Query α} (prepared : r.prepare spec = .ok q)
    (faultless : r.store.fault = none) : ∃ rows, r.findMany spec false = .ok rows := by
  obtain ⟨-, fault, -⟩ := prepare_ok prepared
  have executed : q.execute r.entity false =
      .ok (RowOp.run r.entity [] q.pipeline (q.visibleRows r.entity)) := by
    rw [Query.execute, fault, faultless]
    rfl
  exact ⟨_, findMany_ok_iff.2 ⟨q, prepared, executed⟩⟩

theorem filtered_ok (r : Repository ι α) {model : FilterModel} {e : Expr}
    (compiles : FilterCompiler.compile ⟨r.entity.schema, r.config⟩ model = .ok e) :
    ∃ b, r.filtered model = .ok b ∧ b.errors.isEmpty = true ∧ b.spec.includeOps = .ok [] ∧
      b.spec.withoutPaging = b.spec ∧
      b.spec.orderings = FilterCompiler.compileSorts ⟨r.entity.schema, r.config⟩ model.sorts := by
  obtain ⟨b, applied⟩ : ∃ b, r.filtered model = .ok b := by
    rw [filtered, Builder.applyFilterModel]
    exact ⟨_, bind_ok_iff.2 ⟨e, compiles, rfl⟩⟩
  obtain ⟨e', -, -, errors, spec⟩ := Builder.applyFilterModel_ok applied
  refine ⟨b, applied, ?_, ?_, ?_, ?_⟩
  · rw [errors]
    rfl
  all_goals
    rw [spec]
    rfl

theorem findByFilter_eq (r : Repository ι α) {model : FilterModel} {e : Expr}
    (compiles : FilterCompiler.compile ⟨r.entity.schema, r.config⟩ model = .ok e) {size : Count}
    (sized : size ≠ 0) (bounded : size ≤ r.config.maxPageSize) (cancelled : Bool) :
    ∃ spec : Specification Empty α, spec.includeOps = .ok [] ∧ spec.withoutPaging = spec ∧
      r.findByFilter model none cancelled = (r.findMany spec cancelled).map
        (fun items => .of items 0 items.length items.length) ∧
      ∀ i, r.findByFilter model (some ⟨i, size⟩) cancelled =
        r.findPaged (spec.paged i size) cancelled := by
  obtain ⟨b, applied, clean, bare, unpaged, -⟩ := r.filtered_ok compiles
  refine ⟨b.spec, bare, unpaged, ?_, fun i => ?_⟩
  · rw [findByFilter, applied]
    change (b.build >>= fun spec => _) = _
    rw [Builder.build_of_clean clean]
    change (r.findMany b.spec cancelled >>= fun items => _) = _
    cases r.findMany b.spec cancelled <;> rfl
  · rw [findByFilter, applied]
    change ((b.page _).build >>= fun spec => _) = _
    rw [PageRequest.clamped_eq i sized bounded, Builder.page, Builder.paginate_eq b i sized,
      Builder.build_of_clean]
    · rfl
    · exact clean

section

variable {model : FilterModel} {b : Builder ι Empty α} (applied : r.filtered model = .ok b)
  (clean : b.errors.isEmpty = true)
include applied clean

theorem filterSettles_all : r.filterSettles model none cancelled = r.settles b.spec cancelled id := by
  have built : r.filterSpec model none = .ok b.spec := by
    rw [filterSpec, applied]
    exact Builder.build_of_clean clean
  rw [filterSettles, built]
  rfl

theorem filterSettles_page {request : PageRequest}
    (sized : (request.clamped r.config).pageSize ≠ 0) :
    r.filterSettles model (some request) cancelled = r.settles b.spec cancelled id := by
  have built : r.filterSpec model (some request) =
      .ok (b.spec.paged (request.clamped r.config).pageIndex
        (request.clamped r.config).pageSize) := by
    rw [filterSpec, applied]
    change (b.page (request.clamped r.config)).build = _
    rw [Builder.page, Builder.paginate_eq b _ sized]
    exact Builder.build_of_clean clean
  rw [filterSettles, built]
  exact settles_paged ..

end

/-- Pages of any size partition what is found without pages, whatever their index. Their sorts are
those of the whole, so one of them is sure to be answered if all are. -/
theorem pages_partition (r : Repository ι α) (size : Count) (sized : size ≠ 0)
    (faultless : r.store.fault = none) (countable : r.store.rows.length ≤ Count.limit) :
    (∀ {ρ : Type} [ResultTypes ρ] (b : Builder ι ρ α) (plan : Plan) (q : Query α),
      b.spec.compile = .ok plan →
      plan.apply r.entity r.store.query = .ok q →
      ∃ rows page, r.findMany b.spec.withoutPaging false = .ok rows ∧
        (∀ i, r.findPaged (b.paginate i size).spec false = .ok (page i)) ∧
        (∀ i, Read.findPaged.settles r (b.paginate i size).spec false =
          Read.findMany.settles r b.spec.withoutPaging false) ∧
        Paginates rows size page) ∧
    ∀ model e, FilterCompiler.compile ⟨r.entity.schema, r.config⟩ model = .ok e →
      size ≤ r.config.maxPageSize →
      ∃ all page, r.findByFilter model none false = .ok all ∧
        (∀ i, r.findByFilter model (some ⟨i, size⟩) false = .ok (page i)) ∧
        (∀ i, r.filterSettles model (some ⟨i, size⟩) false = r.filterSettles model none false) ∧
        Paginates all.items size page := by
  -- Both kinds of read page some specification that can be prepared.
  have partition {ρ : Type} [ResultTypes ρ] (spec : Specification ρ α) (q : Query α)
      (prepared : r.prepare spec = .ok q) :
      ∃ rows, r.findMany spec.withoutPaging false = .ok rows ∧
        (∀ i, r.findPaged (spec.paged i size) false = .ok (spec.pageOf rows i size)) ∧
        Paginates rows size fun i => spec.pageOf rows i size := by
    obtain ⟨windowed, found⟩ := findMany_of_prepare prepared faultless
    rw [findMany_window] at found
    obtain ⟨rows, unpaged, -⟩ := map_ok_iff.1 found
    refine ⟨rows, unpaged, fun i => ?_, ?_⟩
    · rw [findPaged_paged, unpaged]
      rfl
    · exact spec.pageOf_paginates ((length_le_of_findMany unpaged).trans countable) sized
  constructor
  · intro ρ _ b plan q compiles applies
    obtain ⟨rows, found, paged, paginates⟩ :=
      partition b.spec q (bind_ok_iff.2 ⟨plan, compiles, applies⟩)
    refine ⟨rows, _, found, fun i => ?_, fun i => ?_, paginates⟩
    · rw [b.paginate_eq i sized]
      exact paged i
    · rw [b.paginate_eq i sized, settles_paged]
      exact (settles_withoutPaging ..).symm
  · intro model e compiles bounded
    obtain ⟨b, applied, clean, -⟩ := r.filtered_ok compiles
    obtain ⟨spec, noIncludes, noPaging, all, pages⟩ :=
      r.findByFilter_eq compiles sized bounded false
    obtain ⟨q, prepared⟩ := r.prepare_of_no_includes noIncludes
    obtain ⟨rows, found, paged, paginates⟩ := partition spec q prepared
    rw [noPaging] at found
    rw [found] at all
    refine ⟨_, _, all, fun i => (pages i).trans (paged i), fun i => ?_, paginates⟩
    have fits := PageRequest.clamped_eq i sized bounded
    rw [filterSettles_all applied clean]
    exact filterSettles_page applied clean (fits.symm ▸ sized)

section

open Sample

def smallCounters : FilterModel :=
  { FilterModel.empty with
    items := [⟨"id", "<", some "3"⟩]
    sorts := [⟨"ID", .descending⟩] }

def counterBuilder : Builder Kind ResultType Counter :=
  { (Builder.start counters.schema : Builder Kind ResultType Counter) with
    spec := { secondCounter with paging := none } }

theorem counters_pages :
    (2 : Count) ≠ 0 ∧ countersRepository.store.fault = none ∧
      countersRepository.store.rows.length ≤ Count.limit ∧
      (∃ plan q rows page, counterBuilder.spec.compile = .ok plan ∧
        plan.apply counters countersRepository.store.query = .ok q ∧
        countersRepository.findMany counterBuilder.spec.withoutPaging false = .ok rows ∧
        rows.map Counter.id = [3, 2, 1] ∧
        (∀ i, countersRepository.findPaged (counterBuilder.paginate i 2).spec false =
          .ok (page i)) ∧
        Paginates rows 2 page) ∧
      ∃ e all page,
        FilterCompiler.compile ⟨counters.schema, countersRepository.config⟩ smallCounters = .ok e ∧
        2 ≤ countersRepository.config.maxPageSize ∧
        countersRepository.findByFilter smallCounters none false = .ok all ∧
        all.items.map Counter.id = [2, 2, 1] ∧
        (∀ i, countersRepository.findByFilter smallCounters (some ⟨i, 2⟩) false = .ok (page i)) ∧
        Paginates all.items 2 page := by
  have countable : countersRepository.store.rows.length ≤ Count.limit := by decide
  have sized : (2 : Count) ≠ 0 := by decide
  have bounded : 2 ≤ countersRepository.config.maxPageSize := by decide
  obtain ⟨specs, models⟩ := pages_partition countersRepository 2 sized rfl countable
  refine ⟨sized, rfl, countable, ?_, ?_⟩
  · obtain ⟨rows, page, found, paged, -, paginates⟩ := specs counterBuilder _ _ rfl rfl
    obtain rfl : rows = [⟨3, none⟩, ⟨2, none⟩, ⟨1, some .zero⟩] :=
      Except.ok.inj (found.symm.trans rfl)
    exact ⟨_, _, _, page, rfl, rfl, found, rfl, paged, paginates⟩
  · obtain ⟨all, page, found, paged, -, paginates⟩ := models smallCounters _ rfl bounded
    obtain rfl : all = .of [⟨2, none⟩, ⟨2, none⟩, ⟨1, some .zero⟩] 0 3 3 :=
      Except.ok.inj (found.symm.trans rfl)
    exact ⟨_, _, page, rfl, bounded, found, rfl, paged, paginates⟩

end

end Repository

end EntityQuery
