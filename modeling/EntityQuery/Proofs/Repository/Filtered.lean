import EntityQuery.Proofs.Filter.Meaning
import EntityQuery.Proofs.Repository.Outcome
import EntityQuery.Proofs.Repository.Pages

set_option autoImplicit false

namespace EntityQuery

variable {ι ρ α : Type} [ResultTypes ρ]

namespace QueryConfig

theorem ofLookup_pages {lookup : String → Option String} {config : QueryConfig}
    (h : ofLookup lookup = .ok config) :
    config.defaultPageSize ≠ 0 ∧ config.defaultPageSize ≤ config.maxPageSize := by
  simp only [ofLookup, bind_ok_iff] at h
  obtain ⟨_, -, _, -, _, -, _, -, _, -, size, -, largest, -, _, -, h⟩ := h
  split at h
  next => cases h
  next accepted =>
    obtain ⟨sized, bounded⟩ := not_or.1 accepted
    cases h
    exact ⟨sized, UInt64.not_lt.1 bounded⟩

end QueryConfig

namespace PageRequest

theorem clamped_bounds (request : PageRequest) {config : QueryConfig}
    (sized : config.defaultPageSize ≠ 0) (bounded : config.defaultPageSize ≤ config.maxPageSize) :
    (request.clamped config).pageSize ≠ 0 ∧
      (request.clamped config).pageSize ≤ config.maxPageSize := by
  simp only [clamped]
  split
  next => exact ⟨sized, bounded⟩
  next given =>
    split
    next =>
      -- The greatest page is no smaller than the default one, which has a size.
      refine ⟨fun none => sized ?_, UInt64.le_refl _⟩
      rw [none] at bounded
      exact UInt64.le_zero_iff.1 bounded
    next fits => exact ⟨given, UInt64.not_lt.1 fits⟩

end PageRequest

namespace Repository

variable {r : Repository ι α} {model : FilterModel} {cancelled : Bool}

theorem findByFilter_unresolved {name : String} (first : unresolved? model.operators = some name)
    (request : Option PageRequest) :
    r.findByFilter model request cancelled = .error (.unknownOperator name) := by
  have refused := FilterCompiler.compile_unresolved ⟨r.entity.schema, r.config⟩ first
  rw [findByFilter, bind_error_iff, filtered, Builder.applyFilterModel, bind_error_iff]
  exact .inl (.inl refused)

theorem faults_of_no_includes {spec : Specification ρ α} (bare : spec.includeOps = .ok []) :
    (r.faults spec cancelled).findSome? id = (r.storeFaults cancelled).findSome? id := by
  have links := Specification.includeOps_error spec
  have paths := Specification.includeOps_paths bare
  simp [faults, linkFaults, Specification.unknownPath?, ← links, ← paths, bare, errorOf?]

theorem findByFilter_clamped (sized : r.config.defaultPageSize ≠ 0)
    (bounded : r.config.defaultPageSize ≤ r.config.maxPageSize) (request : PageRequest) :
    r.findByFilter model (some request) cancelled =
      r.findByFilter model (some (request.clamped r.config)) cancelled := by
  obtain ⟨positive, fits⟩ := request.clamped_bounds sized bounded
  have again := PageRequest.clamped_eq (request.clamped r.config).pageIndex positive fits
  simp only [findByFilter, again]

def modelFaults (r : Repository ι α) (model : FilterModel) (cancelled : Bool) :
    List (Option QueryError) :=
  (unresolved? model.operators).map QueryError.unknownOperator :: r.storeFaults cancelled

theorem unknownOperator_first {name : String} :
    (r.modelFaults model cancelled).findSome? id = some (.unknownOperator name) ↔
      unresolved? model.operators = some name := by
  rw [modelFaults, storeFaults]
  cases unresolved? model.operators <;> cases cancelled <;> cases r.store.fault <;> simp

section

variable (sized : r.config.defaultPageSize ≠ 0)
  (bounded : r.config.defaultPageSize ≤ r.config.maxPageSize) (request : Option PageRequest)
include sized bounded

theorem findByFilter_rows {e : Expr}
    (compiles : FilterCompiler.compile ⟨r.entity.schema, r.config⟩ model = .ok e) :
    errorOf? (r.findByFilter model request cancelled) = (r.storeFaults cancelled).findSome? id ∧
      ∀ asked ∈ request, ∀ page, r.findByFilter model request cancelled = .ok page →
        page.pageSize = (asked.clamped r.config).pageSize.toNat ∧
          page.items.length ≤ page.pageSize := by
  cases request with
  | none =>
    obtain ⟨spec, bare, -, all, -⟩ := r.findByFilter_eq compiles sized bounded cancelled
    refine ⟨?_, by simp⟩
    rw [all, errorOf?_map, findMany_error, faults_of_no_includes bare]
  | some request =>
    obtain ⟨positive, fits⟩ := request.clamped_bounds sized bounded
    obtain ⟨spec, bare, unpaged, -, pages⟩ := r.findByFilter_eq compiles positive fits cancelled
    have page := pages (request.clamped r.config).pageIndex
    rw [findPaged_paged, unpaged] at page
    rw [findByFilter_clamped sized bounded]
    refine ⟨?_, ?_⟩
    · rw [page, errorOf?_map, findMany_error, faults_of_no_includes bare]
    · intro asked mem result found
      obtain rfl := Option.some.inj mem
      rw [page, map_ok_iff] at found
      obtain ⟨rows, -, rfl⟩ := found
      exact ⟨rfl, List.length_take_le _ _⟩

theorem findByFilter_error : errorOf? (r.findByFilter model request cancelled) =
    (r.modelFaults model cancelled).findSome? id := by
  cases first : unresolved? model.operators with
  | some name =>
    rw [findByFilter_unresolved first, unknownOperator_first.2 first]
    rfl
  | none =>
    obtain ⟨_, _, -, -, compiles⟩ :=
      FilterCompiler.compile_resolved ⟨r.entity.schema, r.config⟩ first
    rw [modelFaults, first]
    exact (findByFilter_rows sized bounded request compiles).1

theorem findByFilter_page (asked : PageRequest) (mem : asked ∈ request) (page : PageResult α)
    (found : r.findByFilter model request cancelled = .ok page) :
    page.pageSize = (asked.clamped r.config).pageSize.toNat ∧
      page.items.length ≤ page.pageSize := by
  cases first : unresolved? model.operators with
  | some name =>
    rw [findByFilter_unresolved first] at found
    cases found
  | none =>
    obtain ⟨_, _, -, -, compiles⟩ :=
      FilterCompiler.compile_resolved ⟨r.entity.schema, r.config⟩ first
    exact (findByFilter_rows sized bounded request compiles).2 asked mem page found

end

theorem filterSettles_eq (sized : r.config.defaultPageSize ≠ 0)
    (bounded : r.config.defaultPageSize ≤ r.config.maxPageSize) {b : Builder ι Empty α}
    (applied : r.filtered model = .ok b) (clean : b.errors.isEmpty = true)
    (request : Option PageRequest) :
    r.filterSettles model request cancelled = r.settles b.spec cancelled id := by
  cases request with
  | none => exact filterSettles_all applied clean
  | some request =>
    exact filterSettles_page applied clean (request.clamped_bounds sized bounded).1

def SortsModel (r : Repository ι α) (model : FilterModel) : Prop :=
  ∀ b, r.filtered model = .ok b →
    b.spec.Sortable r.entity r.store.storeFilter r.store.rows

theorem sortsModel_of_unmixed (model : FilterModel)
    (orderly : r.store.rows.length ≤ insertionLimit ∨
      ∀ c ∈ FilterCompiler.compileSorts ⟨r.entity.schema, r.config⟩ model.sorts,
        r.entity.Unmixed c.field r.store.rows) : r.SortsModel model := by
  intro b applied
  obtain ⟨e, -, -, -, spec⟩ := Builder.applyFilterModel_ok applied
  rcases orderly with few | unmixed
  · exact Specification.sortable_of_few few
  · refine Specification.sortable_of_unmixed fun c mem => unmixed c ?_
    rw [spec] at mem
    exact mem

theorem filterSettles_unresolved {name : String} (first : unresolved? model.operators = some name)
    (request : Option PageRequest) : r.filterSettles model request cancelled = true := by
  have refused := FilterCompiler.compile_unresolved ⟨r.entity.schema, r.config⟩ first
  have failed : r.filterSpec model request = .error (.unknownOperator name) := by
    rw [filterSpec, bind_error_iff, filtered, Builder.applyFilterModel, bind_error_iff]
    exact .inl (.inl refused)
  rw [filterSettles, failed]

section

variable (sized : r.config.defaultPageSize ≠ 0)
  (bounded : r.config.defaultPageSize ≤ r.config.maxPageSize)
include sized bounded

theorem filterSettles_of_fault (fault : (r.modelFaults model cancelled).findSome? id ≠ none)
    (request : Option PageRequest) : r.filterSettles model request cancelled = true := by
  cases first : unresolved? model.operators with
  | some name => exact filterSettles_unresolved first request
  | none =>
    obtain ⟨_, _, -, -, compiles⟩ :=
      FilterCompiler.compile_resolved ⟨r.entity.schema, r.config⟩ first
    obtain ⟨b, applied, clean, bare, -⟩ := r.filtered_ok compiles
    rw [modelFaults, first] at fault
    change (r.storeFaults cancelled).findSome? id ≠ none at fault
    rw [← faults_of_no_includes bare] at fault
    obtain ⟨e, found⟩ := Option.ne_none_iff_exists'.1 fault
    rw [filterSettles_eq sized bounded applied clean, settles_of_fault found]

theorem filterSettles_iff (clear : (r.modelFaults model cancelled).findSome? id = none)
    (request : Option PageRequest) :
    r.filterSettles model request cancelled = true ↔ r.SortsModel model := by
  rw [modelFaults] at clear
  cases first : unresolved? model.operators with
  | some name => simp [first] at clear
  | none =>
    obtain ⟨_, _, -, -, compiles⟩ :=
      FilterCompiler.compile_resolved ⟨r.entity.schema, r.config⟩ first
    obtain ⟨b, applied, clean, bare, -⟩ := r.filtered_ok compiles
    rw [first] at clear
    change (r.storeFaults cancelled).findSome? id = none at clear
    rw [← faults_of_no_includes bare] at clear
    rw [filterSettles_eq sized bounded applied clean, settles_iff clear]
    refine ⟨fun sortable b' applied' => ?_, fun sorts => sorts b applied⟩
    obtain rfl := Except.ok.inj (applied.symm.trans applied')
    exact sortable

end

/-- A model is refused for an operator that does not resolve, and for nothing else that a caller
sends. Otherwise it is answered, as long as its sorts have an order to go by. -/
structure ReadsModel (r : Repository ι α) (model : FilterModel) (request : Option PageRequest)
    (cancelled : Bool) (fault : Option QueryError) : Prop where
  unknown : (∃ name, r.filterOutcome model request cancelled =
      .returned (.error (.unknownOperator name))) ↔
    ∃ name ∈ model.operators, FilterOperator.resolve? name = none
  fails : ∀ e, r.filterOutcome model request cancelled = .returned (.error e) ↔ fault = some e
  answers : fault = none → r.SortsModel model →
    ∃ page, r.filterOutcome model request cancelled = .returned (.ok page)
  unsettled : fault = none → ¬r.SortsModel model →
    r.filterOutcome model request cancelled = .unsettled
  sorts : r.store.rows.length ≤ insertionLimit ∨
      (∀ c ∈ FilterCompiler.compileSorts ⟨r.entity.schema, r.config⟩ model.sorts,
        r.entity.Unmixed c.field r.store.rows) →
    r.SortsModel model
  page : ∀ asked ∈ request, ∀ page,
    r.filterOutcome model request cancelled = .returned (.ok page) →
      1 ≤ page.pageSize ∧ page.pageSize ≤ r.config.maxPageSize.toNat ∧
        page.items.length ≤ page.pageSize

theorem findByFilter_safe {lookup : String → Option String} (r : Repository ι α)
    (checked : QueryConfig.ofLookup lookup = .ok r.config) (model : FilterModel)
    (request : Option PageRequest) (cancelled : Bool) :
    r.ReadsModel model request cancelled
      ([(unresolved? model.operators).map QueryError.unknownOperator,
        if cancelled then some (QueryError.store .cancelled) else none,
        r.store.fault.map QueryError.store].findSome? id) := by
  obtain ⟨sized, bounded⟩ := QueryConfig.ofLookup_pages checked
  have fails : ∀ e, r.filterOutcome model request cancelled = .returned (.error e) ↔
      (r.modelFaults model cancelled).findSome? id = some e := by
    intro e
    rw [filterOutcome, Outcome.of_eq_returned_iff, ← errorOf?_eq_some_iff,
      findByFilter_error sized bounded]
    refine and_iff_right_of_imp fun fault => ?_
    exact filterSettles_of_fault sized bounded (by simp [fault]) request
  refine ⟨?_, fails, fun clear sorts => ?_, fun clear unsorted => ?_, sortsModel_of_unmixed model,
    fun asked mem page found => ?_⟩
  · simp only [fails, unknownOperator_first]
    rw [← Option.isSome_iff_exists]
    simp [unresolved?, Option.isNone_iff_eq_none]
  · obtain ⟨page, found⟩ := errorOf?_eq_none_iff.1
      ((findByFilter_error sized bounded request).trans clear)
    exact ⟨page, Outcome.of_eq_returned_iff.2
      ⟨(filterSettles_iff sized bounded clear request).2 sorts, found⟩⟩
  · rw [filterOutcome, Outcome.of_eq_unsettled_iff, ← Bool.not_eq_true,
      filterSettles_iff sized bounded clear]
    exact unsorted
  · obtain ⟨-, answered⟩ := Outcome.of_eq_returned_iff.1 found
    obtain ⟨positive, fits⟩ := asked.clamped_bounds sized bounded
    obtain ⟨size, items⟩ := findByFilter_page sized bounded request asked mem page answered
    rw [UInt64.le_iff_toNat_le] at fits
    rw [size] at items ⊢
    exact ⟨Count.toNat_pos positive, fits, items⟩

section

open Sample

def smallPages : String → Option String
  | "QSPEC_DEFAULT_PAGE_SIZE" => some " 2"
  | "QSPEC_MAX_PAGE_SIZE" => some "+3\t"
  | _ => none

def smallPageRepository : Repository Kind Counter :=
  { countersRepository with
    config := { QueryConfig.default with defaultPageSize := 2, maxPageSize := 3 } }

def lowCounters : FilterModel :=
  { FilterModel.empty with
    items := [⟨"ID", "lte", some "3"⟩]
    sorts := [⟨"id", .descending⟩, ⟨"secret", .ascending⟩] }

def greatestRequest : PageRequest :=
  ⟨0, 0xFFFFFFFFFFFFFFFF⟩

-- Four rows match, and the page is cut to the three that the settings allow.
theorem smallPages_safe :
    QueryConfig.ofLookup smallPages = .ok smallPageRepository.config ∧
      ∃ page, smallPageRepository.filterOutcome lowCounters (some greatestRequest) false =
          .returned (.ok page) ∧
        page.items.map Counter.id = [3, 2, 2] ∧ page.totalCount = 4 ∧ 1 ≤ page.pageSize ∧
        page.pageSize ≤ smallPageRepository.config.maxPageSize.toNat ∧
        page.items.length ≤ page.pageSize := by
  have checked : QueryConfig.ofLookup smallPages = .ok smallPageRepository.config := by
    decide +kernel
  have reads := findByFilter_safe smallPageRepository checked lowCounters (some greatestRequest)
    false
  obtain ⟨page, found⟩ := reads.answers (by decide +kernel) (reads.sorts (.inl (by decide)))
  have answered : (smallPageRepository.findByFilter lowCounters (some greatestRequest) false).map
      (fun page => (page.items.map Counter.id, page.totalCount)) = .ok ([3, 2, 2], 4) := by
    decide +kernel
  rw [(Outcome.of_eq_returned_iff.1 found).2] at answered
  obtain ⟨ids, total⟩ := Prod.mk.inj (Except.ok.inj answered)
  exact ⟨checked, page, found, ids, total, reads.page greatestRequest rfl page found⟩

def pageByScore : FilterModel :=
  { FilterModel.empty with sorts := [⟨"Score", .ascending⟩] }

theorem pageByScore_unsettled :
    QueryConfig.ofLookup (fun _ => none) = .ok scoresRepository.config ∧
      unresolved? pageByScore.operators = none ∧ scoresRepository.store.fault = none ∧
      ¬∃ result, scoresRepository.filterOutcome pageByScore (some ⟨5, 10⟩) false =
        .returned result := by
  have default : QueryConfig.ofLookup (fun _ => none) = .ok scoresRepository.config := by
    decide +kernel
  obtain ⟨sized, bounded⟩ := QueryConfig.ofLookup_pages default
  have applied :
      scoresRepository.filtered pageByScore = .ok ⟨nodes.schema, byScore, .empty, true⟩ :=
    rfl
  refine ⟨default, rfl, rfl, ?_⟩
  rintro ⟨result, answered⟩
  obtain ⟨settled, -⟩ := Outcome.of_eq_returned_iff.1 answered
  exact byScore_not_sortable ((filterSettles_iff sized bounded rfl _).1 settled _ applied)

end

end Repository

end EntityQuery
