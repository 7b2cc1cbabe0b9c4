import EntityQuery.Proofs.Repository.Reads
import EntityQuery.Proofs.Specification.Answer
import EntityQuery.Proofs.Specification.WellFormed

set_option autoImplicit false

namespace EntityQuery

variable {ι ρ α : Type} [ResultTypes ρ]

namespace Store

def Shows (E : Entity ι α) (s : Store α) (row : α) : Prop :=
  ∀ e ∈ s.storeFilter, E.satisfies e row = true

def visible (E : Entity ι α) (s : Store α) : List α :=
  s.rows.filter fun row => s.storeFilter.all fun e => E.satisfies e row

/-- The stores differ in hidden rows alone: in how many there are, what they hold and where. -/
structure SameView (E : Entity ι α) (s s' : Store α) : Prop where
  storeFilter : s'.storeFilter = s.storeFilter
  fault : s'.fault = s.fault
  visible : s'.visible E = s.visible E

theorem shows_of_mem_visible {E : Entity ι α} {s : Store α} {row : α} (h : row ∈ s.visible E) :
    s.Shows E row := by
  intro e filter
  have shown := (List.mem_filter.1 h).2
  rw [Option.mem_def.1 filter] at shown
  exact shown

end Store

namespace Repository

variable (r : Repository ι α) {s : Store α} {spec : Specification ρ α} {cancelled : Bool}

def withStore (s : Store α) : Repository ι α :=
  { r with store := s }

variable {r} {q : Query α}

theorem prepare_visibleRows (h : r.prepare spec = .ok q)
    (respects : spec.ignoreStoreFilters = false) :
    q.visibleRows r.entity = r.store.visible r.entity := by
  obtain ⟨-, -, rows, filter, ignore⟩ := prepare_ok h
  rw [visibleRows_eq, rows, filter, ignore, respects]
  rfl

theorem prepare_withStore (same : r.store.SameView r.entity s) (spec : Specification ρ α) :
    (r.withStore s).prepare spec = (r.prepare spec).map (Query.withRows s.rows) := by
  have query : s.query = r.store.query.withRows s.rows := by
    rw [Store.query, same.storeFilter, same.fault]
    rfl
  rw [prepare, prepare]
  cases compiled : spec.compile with
  | error e => rfl
  | ok plan =>
    change plan.apply r.entity s.query = (plan.apply r.entity r.store.query).map _
    rw [query]
    exact Query.refineAll_withRows r.entity s.rows r.store.query _

theorem read_withStore (same : r.store.SameView r.entity s) (spec : Specification ρ α)
    (respects : spec.ignoreStoreFilters = false) {β : Type} {read : Query α → Except QueryError β}
    (blind : ∀ q : Query α, q.LooksAlike r.entity s.rows → read (q.withRows s.rows) = read q) :
    (r.withStore s).prepare spec >>= read = r.prepare spec >>= read := by
  rw [prepare_withStore same]
  cases prepared : r.prepare spec with
  | error e => rfl
  | ok q =>
    -- The same plan is applied to both stores, and it sees as much of the one as of the other.
    have before := prepare_visibleRows prepared respects
    have after : (r.withStore s).prepare spec = .ok (q.withRows s.rows) := by
      rw [prepare_withStore same, prepared]
      rfl
    apply blind
    rw [Query.LooksAlike, before, ← same.visible]
    exact prepare_visibleRows after respects

theorem findMany_withStore (same : r.store.SameView r.entity s)
    (respects : spec.ignoreStoreFilters = false) (cancelled : Bool) :
    (r.withStore s).findMany spec cancelled = r.findMany spec cancelled :=
  read_withStore same spec respects fun _ alike => congrArg ofStore (alike.execute cancelled)

theorem findOne_withStore (same : r.store.SameView r.entity s)
    (respects : spec.ignoreStoreFilters = false) (cancelled : Bool) :
    (r.withStore s).findOne spec cancelled = r.findOne spec cancelled :=
  read_withStore same spec respects fun _ alike =>
    congrArg (fun rows => ofStore (rows.map List.head?)) (alike.firstOnly.execute cancelled)

theorem any_withStore (same : r.store.SameView r.entity s)
    (respects : spec.ignoreStoreFilters = false) (cancelled : Bool) :
    (r.withStore s).any spec cancelled = r.any spec cancelled :=
  read_withStore same spec.withoutPaging respects fun _ alike =>
    congrArg (fun rows => ofStore (rows.map fun rows => !rows.isEmpty))
      (alike.firstOnly.execute cancelled)

theorem count_withStore (same : r.store.SameView r.entity s)
    (respects : spec.ignoreStoreFilters = false) (cancelled : Bool) :
    (r.withStore s).count spec cancelled = r.count spec cancelled :=
  read_withStore same spec.withoutPaging respects fun _ alike =>
    congrArg (fun rows => ofStore (rows.map List.length)) (alike.execute cancelled)

theorem findPaged_withStore (same : r.store.SameView r.entity s)
    (respects : spec.ignoreStoreFilters = false) (cancelled : Bool) :
    (r.withStore s).findPaged spec cancelled = r.findPaged spec cancelled := by
  simp only [findPaged, findMany_withStore same respects, count_withStore same respects]

theorem findProjected_withStore (same : r.store.SameView r.entity s)
    (respects : spec.ignoreStoreFilters = false) (requested : ρ) (cancelled : Bool) :
    (r.withStore s).findProjected spec requested cancelled =
      r.findProjected spec requested cancelled := by
  simp only [findProjected, findMany_withStore same respects]

theorem matching_respects {c : Composition ρ α} (h : r.matching c = .ok spec) :
    spec.ignoreStoreFilters = false := by
  obtain ⟨-, rfl⟩ := Builder.build_ok h
  have noted := Builder.check_notes (Builder.start r.entity.schema : Builder ι ρ α) c.toExpr
  exact congrArg (fun b => b.spec.ignoreStoreFilters) noted

theorem findMatching_withStore (same : r.store.SameView r.entity s) (c : Composition ρ α)
    (cancelled : Bool) :
    (r.withStore s).findMatching c cancelled = r.findMatching c cancelled := by
  rw [findMatching, findMatching]
  change r.matching c >>= _ = r.matching c >>= _
  cases built : r.matching c with
  | error e => rfl
  | ok spec => exact findMany_withStore same (matching_respects built) cancelled

theorem countMatching_withStore (same : r.store.SameView r.entity s) (c : Composition ρ α)
    (cancelled : Bool) :
    (r.withStore s).countMatching c cancelled = r.countMatching c cancelled := by
  rw [countMatching, countMatching]
  change r.matching c >>= _ = r.matching c >>= _
  cases built : r.matching c with
  | error e => rfl
  | ok spec => exact count_withStore same (matching_respects built) cancelled

theorem filtered_respects {model : FilterModel} {b : Builder ι Empty α}
    (applied : r.filtered model = .ok b) :
    b.spec.ignoreStoreFilters = false := by
  -- A model brings criteria and orderings, and no hints.
  obtain ⟨e, -, -, -, spec⟩ := Builder.applyFilterModel_ok applied
  rw [spec]
  rfl

theorem page_respects {b : Builder ι ρ α} (respects : b.spec.ignoreStoreFilters = false)
    {request : PageRequest} (built : (b.page request).build = .ok spec) :
    spec.ignoreStoreFilters = false := by
  obtain ⟨-, rfl⟩ := Builder.build_ok built
  rw [Builder.page, Builder.paginate]
  split <;> exact respects

theorem findByFilter_withStore (same : r.store.SameView r.entity s) (model : FilterModel)
    (request : Option PageRequest) (cancelled : Bool) :
    (r.withStore s).findByFilter model request cancelled =
      r.findByFilter model request cancelled := by
  rw [findByFilter, findByFilter]
  change r.filtered model >>= _ = r.filtered model >>= _
  cases applied : r.filtered model with
  | error e => rfl
  | ok b =>
    have respects := filtered_respects applied
    cases request with
    | some request =>
      change (b.page (request.clamped r.config)).build >>= _ =
        (b.page (request.clamped r.config)).build >>= _
      cases built : (b.page (request.clamped r.config)).build with
      | error e => rfl
      | ok spec => exact findPaged_withStore same (page_respects respects built) cancelled
    | none =>
      change b.build >>= _ = b.build >>= _
      cases built : b.build with
      | error e => rfl
      | ok spec =>
        obtain ⟨-, rfl⟩ := Builder.build_ok built
        change (r.withStore s).findMany b.spec cancelled >>= _ = r.findMany b.spec cancelled >>= _
        rw [findMany_withStore same respects]

section

variable (respects : spec.ignoreStoreFilters = false)

include respects

theorem shows_of_execute (prepared : r.prepare spec = .ok q) {q' : Query α}
    (view : q'.visibleRows r.entity = q.visibleRows r.entity) {rows : List α}
    (executed : q'.execute r.entity cancelled = .ok rows) :
    ∀ row ∈ rows, r.store.Shows r.entity row := by
  obtain ⟨-, -, rfl⟩ := Query.execute_ok executed
  intro row mem
  have seen := (RowOp.run_subperm r.entity _ _ _).subset mem
  rw [view, prepare_visibleRows prepared respects] at seen
  exact Store.shows_of_mem_visible seen

theorem findMany_shows {rows : List α} (h : r.findMany spec cancelled = .ok rows) :
    ∀ row ∈ rows, r.store.Shows r.entity row := by
  obtain ⟨q, prepared, executed⟩ := findMany_ok_iff.1 h
  exact shows_of_execute respects prepared rfl executed

theorem findOne_shows {found : Option α} (h : r.findOne spec cancelled = .ok found) :
    ∀ row ∈ found, r.store.Shows r.entity row := by
  obtain ⟨q, prepared, rows, executed, rfl⟩ := findOne_ok_iff.1 h
  intro row first
  have asked : q.firstOnly.visibleRows r.entity = q.visibleRows r.entity := rfl
  exact shows_of_execute respects prepared asked executed row (List.mem_of_mem_head? first)

theorem findPaged_shows {page : PageResult α} (h : r.findPaged spec cancelled = .ok page) :
    ∀ row ∈ page.items, r.store.Shows r.entity row := by
  obtain ⟨size, -, total, -, items, found, rfl⟩ := findPaged_ok_iff.1 h
  exact findMany_shows respects found

end

theorem findMatching_shows {c : Composition ρ α} {rows : List α}
    (h : r.findMatching c cancelled = .ok rows) : ∀ row ∈ rows, r.store.Shows r.entity row := by
  obtain ⟨spec, built, found⟩ := bind_ok_iff.1 h
  exact findMany_shows (matching_respects built) found

theorem findByFilter_shows {model : FilterModel} {request : Option PageRequest}
    {page : PageResult α} (h : r.findByFilter model request cancelled = .ok page) :
    ∀ row ∈ page.items, r.store.Shows r.entity row := by
  cases request with
  | some request =>
    obtain ⟨b, applied, spec, built, found⟩ := findByFilter_page_ok_iff.1 h
    exact findPaged_shows (page_respects (filtered_respects applied) built) found
  | none =>
    obtain ⟨b, applied, spec, built, items, found, rfl⟩ := findByFilter_all_ok_iff.1 h
    obtain ⟨-, rfl⟩ := Builder.build_ok built
    exact findMany_shows (filtered_respects applied) found

structure AnswersAlike (ρ : Type) [ResultTypes ρ] (r r' : Repository ι α) : Prop where
  findMany : ∀ spec : Specification ρ α, spec.ignoreStoreFilters = false →
    r'.findMany spec = r.findMany spec
  findOne : ∀ spec : Specification ρ α, spec.ignoreStoreFilters = false →
    r'.findOne spec = r.findOne spec
  any : ∀ spec : Specification ρ α, spec.ignoreStoreFilters = false → r'.any spec = r.any spec
  count : ∀ spec : Specification ρ α, spec.ignoreStoreFilters = false → r'.count spec = r.count spec
  findPaged : ∀ spec : Specification ρ α, spec.ignoreStoreFilters = false →
    r'.findPaged spec = r.findPaged spec
  findProjected : ∀ spec : Specification ρ α, spec.ignoreStoreFilters = false →
    r'.findProjected spec = r.findProjected spec
  findMatching : ∀ c : Composition ρ α, r'.findMatching c = r.findMatching c
  countMatching : ∀ c : Composition ρ α, r'.countMatching c = r.countMatching c
  findByFilter : r'.findByFilter = r.findByFilter

structure Discreet (ρ : Type) [ResultTypes ρ] (r : Repository ι α) : Prop where
  findMany : ∀ spec : Specification ρ α, spec.ignoreStoreFilters = false → ∀ cancelled rows,
    r.findMany spec cancelled = .ok rows → ∀ row ∈ rows, r.store.Shows r.entity row
  findOne : ∀ spec : Specification ρ α, spec.ignoreStoreFilters = false → ∀ cancelled row,
    r.findOne spec cancelled = .ok (some row) → r.store.Shows r.entity row
  findPaged : ∀ spec : Specification ρ α, spec.ignoreStoreFilters = false → ∀ cancelled page,
    r.findPaged spec cancelled = .ok page → ∀ row ∈ page.items, r.store.Shows r.entity row
  findProjected : ∀ spec : Specification ρ α, spec.ignoreStoreFilters = false →
    ∀ requested cancelled values, r.findProjected spec requested cancelled = .ok values →
      ∃ selector ∈ spec.selector, ∃ project ∈ selector.projectTo? requested,
        ∃ rows : List α, (∀ row ∈ rows, r.store.Shows r.entity row) ∧ values = rows.map project
  findMatching : ∀ (c : Composition ρ α) cancelled rows,
    r.findMatching c cancelled = .ok rows → ∀ row ∈ rows, r.store.Shows r.entity row
  findByFilter : ∀ model request cancelled page,
    r.findByFilter model request cancelled = .ok page →
      ∀ row ∈ page.items, r.store.Shows r.entity row

theorem withStore_answersAlike (same : r.store.SameView r.entity s) :
    r.AnswersAlike ρ (r.withStore s) where
  findMany _ respects := funext (findMany_withStore same respects)
  findOne _ respects := funext (findOne_withStore same respects)
  any _ respects := funext (any_withStore same respects)
  count _ respects := funext (count_withStore same respects)
  findPaged _ respects := funext (findPaged_withStore same respects)
  findProjected _ respects := by
    funext requested cancelled
    exact findProjected_withStore same respects requested cancelled
  findMatching c := funext (findMatching_withStore same c)
  countMatching c := funext (countMatching_withStore same c)
  findByFilter := by
    funext model request cancelled
    exact findByFilter_withStore same model request cancelled

theorem discreet (r : Repository ι α) : r.Discreet ρ where
  findMany _ respects _ _ h := findMany_shows respects h
  findOne _ respects _ row h := findOne_shows respects h row rfl
  findPaged _ respects _ _ h := findPaged_shows respects h
  findProjected _ respects _ _ _ h := by
    obtain ⟨selector, selected, project, projects, rows, found, rfl⟩ := findProjected_ok_iff.1 h
    exact ⟨selector, selected, project, projects, rows, findMany_shows respects found, rfl⟩
  findMatching _ _ _ h := findMatching_shows h
  findByFilter _ _ _ _ h := findByFilter_shows h

/-- Stores with the same filter and fault that show the same rows in the same order give the same
answers, whatever they hide, and none of these holds a hidden row. -/
theorem hidden_rows_stay_hidden (r : Repository ι α) (s : Store α)
    (same : r.store.SameView r.entity s) :
    r.AnswersAlike ρ (r.withStore s) ∧ r.Discreet ρ ∧ (r.withStore s).Discreet ρ :=
  ⟨withStore_answersAlike same, r.discreet, (r.withStore s).discreet⟩

section

open Sample

-- The counters again, in the same order, among other counters that are hidden.
def crowdedStore : Store Counter :=
  (Store.ofRows [⟨2, none⟩, ⟨9, some .zero⟩, ⟨1, some .zero⟩, ⟨2, none⟩, ⟨30, none⟩, ⟨3, none⟩,
    ⟨30, none⟩]).withStoreFilter (.compare "Id" .lt (.integer 9))

theorem crowdedStore_stays_hidden :
    countersRepository.store.SameView counters crowdedStore ∧
      countersRepository.AnswersAlike ResultType (countersRepository.withStore crowdedStore) ∧
      countersRepository.Discreet ResultType ∧
      (countersRepository.withStore crowdedStore).Discreet ResultType := by
  have same : countersRepository.store.SameView counters crowdedStore := ⟨rfl, rfl, rfl⟩
  exact ⟨same, hidden_rows_stay_hidden countersRepository crowdedStore same⟩

end

end Repository

end EntityQuery
