import EntityQuery.Proofs.Repository.Filtered
import EntityQuery.Proofs.Specification.Window
import EntityQuery.Sample.Projection

set_option autoImplicit false

namespace EntityQuery

variable {ι ρ α : Type} [ResultTypes ρ]

namespace Paging

theorem toNat_pageIndex {p : Paging} {size : Count} (sized : p.take = some size) :
    p.pageIndex.toNat = p.skip.toNat / size.toNat := by
  rw [pageIndex, sized]
  by_cases none : size = 0
  next => simp [none]
  next =>
    have positive : 0 < size := UInt64.lt_iff_toNat_lt.2 (Count.toNat_pos none)
    simp only [positive, if_true, UInt64.toNat_div]

theorem toNat_pageIndex_page (request : PageRequest) (sized : request.pageSize ≠ 0) :
    (page request).pageIndex.toNat =
      min request.pageIndex.toNat (Count.limit / request.pageSize.toNat) := by
  have positive : 0 < request.pageSize.toNat := Count.toNat_pos sized
  rw [toNat_pageIndex rfl, page, PageRequest.skip, Count.toNat_saturatingMul]
  by_cases fits : request.pageIndex.toNat * request.pageSize.toNat ≤ Count.limit
  next =>
    have below := (Nat.le_div_iff_mul_le positive).2 fits
    rw [Nat.min_eq_left fits, Nat.min_eq_left below]
    exact Nat.mul_div_cancel _ positive
  next =>
    have beyond := (Nat.div_lt_iff_lt_mul positive).2 (Nat.lt_of_not_le fits)
    rw [Nat.min_eq_right (Nat.le_of_not_le fits), Nat.min_eq_right beyond.le]
    rfl

end Paging

namespace PageResult

variable {page : PageResult α} {items : List α} {index size total : Nat}

def label (page : PageResult α) : Nat × Nat :=
  (page.pageIndex, page.pageSize)

theorem hasNext_of (positive : 0 < size) :
    (of items index size total).hasNext = true ↔ (index + 1) * size < total := by
  rw [hasNext, decide_eq_true_iff, totalPages_of positive, ← Nat.not_le,
    ceilDiv_le_iff_le_mul positive, Nat.not_le, Nat.mul_comm]
  rfl

theorem hasPrevious_of : (of items index size total).hasPrevious = true ↔ 0 < index := by
  rw [hasPrevious, decide_eq_true_iff]
  rfl

structure Navigates (page : PageResult α) (offset size : Nat) : Prop where
  next : page.hasNext = true ↔ offset + size < page.totalCount
  previous : page.hasPrevious = true ↔ 0 < offset

structure NavigatesPages (page : PageResult α) (offset size : Nat) : Prop where
  next : page.hasNext = true ↔ (offset / size + 1) * size < page.totalCount
  previous : page.hasPrevious = true ↔ size ≤ offset

variable {offset : Nat}

theorem navigatesPages_of (positive : 0 < size) :
    (of items (offset / size) size total).NavigatesPages offset size where
  next := hasNext_of positive
  previous := hasPrevious_of.trans (Nat.div_pos_iff.trans (and_iff_right positive))

theorem NavigatesPages.navigates_iff (h : page.NavigatesPages offset size) (positive : 0 < size) :
    page.Navigates offset size ↔
      (offset + size < page.totalCount ∨ page.totalCount ≤ (offset / size + 1) * size) ∧
        (offset = 0 ∨ size ≤ offset) := by
  have begins : offset / size * size ≤ offset := Nat.div_mul_le_self offset size
  rw [Nat.succ_mul]
  constructor
  · rintro ⟨next, previous⟩
    rw [h.next, Nat.succ_mul] at next
    rw [h.previous] at previous
    omega
  · rintro ⟨next, previous⟩
    refine ⟨h.next.trans ?_, h.previous.trans ?_⟩
    · rw [Nat.succ_mul]
      omega
    · omega

theorem NavigatesPages.of_request {request : PageRequest}
    (h : page.NavigatesPages request.skip.toNat request.pageSize.toNat)
    (positive : 0 < request.pageSize.toNat) (countable : page.totalCount ≤ Count.limit) :
    page.Navigates request.skip.toNat request.pageSize.toNat := by
  rw [h.navigates_iff positive, PageRequest.skip, Count.toNat_saturatingMul]
  by_cases fits : request.pageIndex.toNat * request.pageSize.toNat ≤ Count.limit
  next =>
    rw [Nat.min_eq_left fits, Nat.mul_div_cancel _ positive, Nat.succ_mul]
    refine ⟨by omega, ?_⟩
    rcases Nat.eq_zero_or_pos request.pageIndex.toNat with first | later
    · exact .inl (by rw [first, Nat.zero_mul])
    · exact .inr (Nat.le_mul_of_pos_left _ later)
  next =>
    -- The window is past the last row that can be counted, and so is the page it begins in.
    have past : Count.limit < (Count.limit / request.pageSize.toNat + 1) * request.pageSize.toNat :=
      (Nat.div_lt_iff_lt_mul positive).1 (Nat.lt_succ_self _)
    have counted : request.pageSize.toNat ≤ Count.limit := by
      have bound := request.pageSize.toNat_lt
      rw [Count.limit]
      omega
    rw [Nat.min_eq_right (Nat.le_of_not_le fits)]
    exact ⟨.inr (countable.trans past.le), .inr counted⟩

end PageResult

namespace PageRequest

theorem bounded_of_unclamped {config : QueryConfig} {request : PageRequest}
    (sized : request.pageSize ≠ 0) (unclamped : request.clamped config = request) :
    request.pageSize ≤ config.maxPageSize := by
  have size := congrArg pageSize unclamped
  simp only [clamped, if_neg sized] at size
  split at size
  next => exact UInt64.le_of_eq size.symm
  next within => exact UInt64.not_lt.1 within

end PageRequest

namespace Repository

variable (r : Repository ι α) {spec : Specification ρ α} {cancelled : Bool}

theorem findPaged_label {size : Count} (sized : spec.pageSize = some size) :
    (r.findPaged spec cancelled).map PageResult.label =
      (r.findMany spec cancelled).map fun _ => ((spec.pageIndex.getD 0).toNat, size.toNat) := by
  rw [r.findPaged_eq sized, findMany_window r spec, map_map, map_map]
  rfl

theorem findByFilter_label {request : PageRequest} (sized : request.pageSize ≠ 0)
    (unclamped : request.clamped r.config = request) (model : FilterModel) :
    (r.findByFilter model (some request) cancelled).map PageResult.label =
      (r.findByFilter model none cancelled).map fun _ =>
        ((Paging.page request).pageIndex.toNat, request.pageSize.toNat) := by
  cases first : unresolved? model.operators with
  | some name => simp only [findByFilter_unresolved first, Except.map]
  | none =>
    obtain ⟨items, groups, -, -, compiles⟩ :=
      FilterCompiler.compile_resolved ⟨r.entity.schema, r.config⟩ first
    have bounded := PageRequest.bounded_of_unclamped sized unclamped
    obtain ⟨spec, -, unpaged, all, pages⟩ := r.findByFilter_eq compiles sized bounded cancelled
    rw [all, pages request.pageIndex, findPaged_paged, unpaged, map_map, map_map]
    rfl

/--
A page is answered under the index that was asked for exactly if its offset can be counted, and else
under the greatest index of which that is true. There is an answer whenever the rows themselves are
found, and its size is the one that was asked for.
-/
theorem answered_page_exact (r : Repository ι α) (request : PageRequest)
    (sized : request.pageSize ≠ 0) (cancelled : Bool) :
    ∃ named : Count,
      named.toNat = min request.pageIndex.toNat (Count.limit / request.pageSize.toNat) ∧
      (named = request.pageIndex ↔
        request.pageIndex.toNat * request.pageSize.toNat ≤ Count.limit) ∧
      (∀ {ρ : Type} [ResultTypes ρ] (b : Builder ι ρ α),
        let spec := (b.paginate request.pageIndex request.pageSize).spec
        spec.pageIndex = some named ∧ spec.pageSize = some request.pageSize ∧
          (r.findPaged spec cancelled).map PageResult.label =
            (r.findMany spec cancelled).map fun _ => (named.toNat, request.pageSize.toNat)) ∧
      (request.clamped r.config = request → ∀ model,
        (r.findByFilter model (some request) cancelled).map PageResult.label =
          (r.findByFilter model none cancelled).map fun _ =>
            (named.toNat, request.pageSize.toNat)) := by
  have positive : 0 < request.pageSize.toNat := Count.toNat_pos sized
  have index := Paging.toNat_pageIndex_page request sized
  refine ⟨(Paging.page request).pageIndex, index, ?_, fun b => ?_, fun unclamped model => ?_⟩
  · rw [← UInt64.toNat_inj, index, min_eq_left_iff, Nat.le_div_iff_mul_le positive]
  · rw [b.paginate_eq request.pageIndex sized]
    exact ⟨rfl, rfl, r.findPaged_label rfl⟩
  · exact r.findByFilter_label sized unclamped model

section

open Sample

def counterStart : Builder Kind ResultType Counter :=
  .start counters.schema

def lastCountable : PageRequest :=
  ⟨0x7FFFFFFFFFFFFFFF, 2⟩

theorem lastCountable_named :
    lastCountable.pageSize ≠ 0 ∧
      lastCountable.clamped countersRepository.config = lastCountable ∧
      lastCountable.pageIndex.toNat * lastCountable.pageSize.toNat ≤ Count.limit ∧
      (counterBuilder.paginate lastCountable.pageIndex 2).spec.pageIndex =
        some lastCountable.pageIndex ∧
      (countersRepository.findPaged (counterBuilder.paginate lastCountable.pageIndex 2).spec
        false).map PageResult.label = .ok (0x7FFFFFFFFFFFFFFF, 2) ∧
      (countersRepository.findByFilter smallCounters (some lastCountable) false).map
        PageResult.label = .ok (0x7FFFFFFFFFFFFFFF, 2) := by
  have sized : lastCountable.pageSize ≠ 0 := by decide
  have unclamped : lastCountable.clamped countersRepository.config = lastCountable := by decide
  have counted : lastCountable.pageIndex.toNat * lastCountable.pageSize.toNat ≤ Count.limit := by
    decide
  obtain ⟨named, -, exact, specs, models⟩ :=
    answered_page_exact countersRepository lastCountable sized false
  obtain rfl := exact.2 counted
  obtain ⟨index, -, answered⟩ := specs counterBuilder
  exact ⟨sized, unclamped, counted, index, answered.trans rfl,
    (models unclamped smallCounters).trans rfl⟩

theorem uncountable_page_misnamed :
    ((counterStart.paginate 0x8000000000000000 2).build.map
        fun spec => (spec.pageIndex, spec.pageSize)) = .ok (some 0x7FFFFFFFFFFFFFFF, some 2) ∧
      PageRequest.clamped ⟨0x8000000000000000, 2⟩ countersRepository.config =
        ⟨0x8000000000000000, 2⟩ ∧
      (countersRepository.findPaged (counterStart.paginate 0x8000000000000000 2).spec false).map
        PageResult.label = .ok (0x7FFFFFFFFFFFFFFF, 2) ∧
      (countersRepository.findByFilter smallCounters (some ⟨0x8000000000000000, 2⟩) false).map
        PageResult.label = .ok (0x7FFFFFFFFFFFFFFF, 2) ∧
      (0x7FFFFFFFFFFFFFFF : Count) ≠ 0x8000000000000000 := by
  exact ⟨by decide, by decide, rfl, rfl, by decide⟩

end

theorem flags_exact (r : Repository ι α) {s : Schema ι} {steps : List (BuildStep ι ρ α)}
    {b : Builder ι ρ α} {spec : Specification ρ α} (ran : (Builder.start s).run steps = .ok b)
    (built : b.build = .ok spec) (cancelled : Bool) {page : PageResult α}
    (found : r.findPaged spec cancelled = .ok page) :
    ∃ offset size : Count, spec.skip = some offset ∧ spec.take = some size ∧
      page.NavigatesPages offset.toNat size.toNat ∧
      (page.Navigates offset.toNat size.toNat ↔
        (offset.toNat + size.toNat < page.totalCount ∨
            page.totalCount ≤ (offset.toNat / size.toNat + 1) * size.toNat) ∧
          (offset.toNat = 0 ∨ size.toNat ≤ offset.toNat)) ∧
      (∀ request, spec.paging = some (.page request) → page.totalCount ≤ Count.limit →
        page.Navigates offset.toNat size.toNat) := by
  obtain ⟨-, rfl⟩ := Builder.build_ok built
  obtain ⟨size, sized, total, -, items, -, rfl⟩ := findPaged_ok_iff.1 found
  obtain ⟨paging, windowed, taken⟩ := Option.bind_eq_some_iff.1 sized
  have positive : 0 < size.toNat := Count.toNat_pos fun zero =>
    Builder.run_hasRoom ran (sized.trans (congrArg some zero))
  have index : (b.spec.pageIndex.getD 0).toNat = paging.skip.toNat / size.toNat := by
    rw [Specification.pageIndex, windowed]
    exact Paging.toNat_pageIndex taken
  have flags : (PageResult.of items (b.spec.pageIndex.getD 0).toNat size.toNat
      total).NavigatesPages paging.skip.toNat size.toNat :=
    index ▸ PageResult.navigatesPages_of positive
  refine ⟨paging.skip, size, ?_, sized, flags, flags.navigates_iff positive, ?_⟩
  · rw [Specification.skip, windowed]
    rfl
  · intro request asked countable
    obtain rfl := Option.some.inj (windowed.symm.trans asked)
    obtain rfl := Option.some.inj taken
    exact flags.of_request positive countable

section

open Sample

-- The window is put together in parts, and comes to be that of a page.
def secondOfFour : List (BuildStep Kind ResultType Counter) :=
  [.skip 5, .paginate 0 3, .orderBy "id" .ascending, .skip 3]

theorem secondOfFour_navigates :
    ∃ b spec page, (Builder.start counters.schema).run secondOfFour = .ok b ∧
      b.build = .ok spec ∧ countersRepository.findPaged spec false = .ok page ∧
      page.totalCount = 4 ∧ spec.paging = some (.page ⟨1, 3⟩) ∧
      page.NavigatesPages 3 3 ∧ page.Navigates 3 3 := by
  have ran : (Builder.start counters.schema).run secondOfFour = .ok _ := rfl
  obtain ⟨offset, size, skipped, sized, flags, -, asked⟩ :=
    flags_exact countersRepository ran rfl false rfl
  obtain rfl := Option.some.inj skipped
  obtain rfl := Option.some.inj sized
  exact ⟨_, _, _, ran, rfl, rfl, rfl, rfl, flags, asked ⟨1, 3⟩ rfl (by decide)⟩

theorem shifted_window_misread :
    ∃ b spec page,
      counterStart.run [.skip 1, .take 3] = .ok b ∧
      b.build = .ok spec ∧ countersRepository.findPaged spec false = .ok page ∧
      spec.skip = some 1 ∧ spec.take = some 3 ∧ page.totalCount = 4 ∧
      page.hasNext = true ∧ page.hasPrevious = false ∧ ¬page.Navigates 1 3 := by
  refine ⟨_, _, _, rfl, rfl, rfl, rfl, rfl, rfl, rfl, rfl, fun right => ?_⟩
  exact absurd (right.previous.2 (by decide)) (by decide)

end

end Repository

end EntityQuery
