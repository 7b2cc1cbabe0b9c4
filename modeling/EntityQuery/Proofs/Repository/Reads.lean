import EntityQuery.Proofs.Plan.Compile
import EntityQuery.Repository

set_option autoImplicit false

namespace EntityQuery.Repository

variable {ι ρ α : Type} [ResultTypes ρ] {r : Repository ι α} {spec : Specification ρ α}
  {cancelled : Bool}

theorem ofStore_ok_iff {β : Type} {result : Except StoreError β} {b : β} :
    ofStore result = .ok b ↔ result = .ok b := by
  cases result with
  | error e =>
    change Except.error (QueryError.store e) = .ok b ↔ _
    simp
  | ok a =>
    change (Except.ok a : Except QueryError β) = .ok b ↔ _
    simp

theorem prepare_ok {q : Query α} (h : r.prepare spec = .ok q) :
    q.pipeline = spec.rowOps ∧ q.fault = r.store.fault ∧ q.rows = r.store.rows ∧
      q.storeFilter = r.store.storeFilter ∧ q.ignoreStoreFilters = spec.ignoreStoreFilters := by
  obtain ⟨plan, compiles, applies⟩ := bind_ok_iff.1 h
  have extended := Query.refineAll_extends applies
  refine ⟨?_, extended.fault, extended.rows, extended.storeFilter, ?_⟩
  · rw [extended.pipeline, Specification.compile_rowOps compiles]
    rfl
  · rw [extended.ignoreStoreFilters, Specification.compile_optsOut compiles]
    rfl

theorem findMany_ok_iff {rows : List α} :
    r.findMany spec cancelled = .ok rows ↔
      ∃ q, r.prepare spec = .ok q ∧ q.execute r.entity cancelled = .ok rows := by
  rw [findMany, bind_ok_iff]
  simp only [ofStore_ok_iff, Query.toList]

theorem findOne_ok_iff {found : Option α} :
    r.findOne spec cancelled = .ok found ↔
      ∃ q, r.prepare spec = .ok q ∧
        ∃ rows, q.firstOnly.execute r.entity cancelled = .ok rows ∧ rows.head? = found := by
  rw [findOne, bind_ok_iff]
  simp only [ofStore_ok_iff, Query.first, map_ok_iff]

theorem ofStore_map {β γ : Type} (result : Except StoreError β) (f : β → γ) :
    ofStore (result.map f) = (ofStore result).map f := by
  cases result <;> rfl

theorem count_eq_length (r : Repository ι α) (spec : Specification ρ α) (cancelled : Bool) :
    r.count spec cancelled = (r.findMany spec.withoutPaging cancelled).map List.length := by
  simp only [count, findMany, Query.count, Query.toList, ofStore_map, bind_map]

theorem findPaged_ok_iff {page : PageResult α} :
    r.findPaged spec cancelled = .ok page ↔
      ∃ size, spec.pageSize = some size ∧
        ∃ total, r.count spec cancelled = .ok total ∧
          ∃ items, r.findMany spec cancelled = .ok items ∧
            .of items (spec.pageIndex.getD 0).toNat size.toNat total = page := by
  rw [findPaged]
  cases spec.pageSize with
  | none => simp [throw_ne_ok]
  | some size => simp only [bind_ok_iff, pure_ok_iff, Option.some.injEq, exists_eq_left']

theorem findProjected_ok_iff {requested : ρ}
    {values : List (ResultTypes.Carrier requested)} :
    r.findProjected spec requested cancelled = .ok values ↔
      ∃ selector, spec.selector = some selector ∧
        ∃ project, selector.projectTo? requested = some project ∧
          ∃ rows, r.findMany spec cancelled = .ok rows ∧ rows.map project = values := by
  rw [findProjected]
  cases spec.selector with
  | none => simp [throw_ne_ok]
  | some selector =>
    simp only [Option.some.injEq, exists_eq_left']
    cases selector.projectTo? requested with
    | none => simp [throw_ne_ok]
    | some project => simp only [bind_ok_iff, pure_ok_iff, Option.some.injEq, exists_eq_left']

theorem findByFilter_page_ok_iff {model : FilterModel} {request : PageRequest}
    {page : PageResult α} :
    r.findByFilter model (some request) cancelled = .ok page ↔
      ∃ b, r.filtered model = .ok b ∧
        ∃ spec, (b.page (request.clamped r.config)).build = .ok spec ∧
          r.findPaged spec cancelled = .ok page := by
  rw [findByFilter]
  simp only [bind_ok_iff]

theorem findByFilter_all_ok_iff {model : FilterModel} {page : PageResult α} :
    r.findByFilter model none cancelled = .ok page ↔
      ∃ b, r.filtered model = .ok b ∧
        ∃ spec, b.build = .ok spec ∧ ∃ items, r.findMany spec cancelled = .ok items ∧
          .of items 0 items.length items.length = page := by
  rw [findByFilter]
  simp only [bind_ok_iff, pure_ok_iff]

end EntityQuery.Repository
