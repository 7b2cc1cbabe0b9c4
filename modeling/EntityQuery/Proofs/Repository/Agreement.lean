import EntityQuery.Proofs.Repository.Pages
import EntityQuery.Sample.Projection

set_option autoImplicit false

namespace EntityQuery

variable {ι ρ α : Type} [ResultTypes ρ]

namespace Query

variable (E : Entity ι α) (q : Query α) (cancelled : Bool)

theorem execute_firstOnly :
    q.firstOnly.execute E cancelled = (q.execute E cancelled).map (List.take 1) := by
  obtain ⟨keys, run⟩ := RowOp.run_append E [] q.pipeline (q.visibleRows E)
  have cut : RowOp.run E [] q.firstOnly.pipeline (q.firstOnly.visibleRows E) =
      (RowOp.run E [] q.pipeline (q.visibleRows E)).take 1 := run [.take 1]
  have sameFault : q.firstOnly.fault = q.fault := rfl
  rw [execute, execute, cut, sameFault]
  cases cancelled with
  | true => rfl
  | false => cases q.fault <;> rfl

theorem first_eq_head : q.first E cancelled = (q.toList E cancelled).map List.head? := by
  rw [first, toList, execute_firstOnly, map_map]
  congr
  funext rows
  cases rows <;> rfl

theorem any_eq_count_pos :
    q.any E cancelled = (q.count E cancelled).map fun n => decide (0 < n) := by
  rw [any, count, execute_firstOnly, map_map, map_map]
  congr
  funext rows
  cases rows <;> rfl

end Query

namespace Specification

def withWindow (spec : Specification ρ α) (paging : Option Paging) (limit : Option Count) :
    Specification ρ α :=
  { spec with paging, limit }

end Specification

namespace Repository

variable (r : Repository ι α) (spec : Specification ρ α) (cancelled : Bool)

theorem findOne_eq_head :
    r.findOne spec cancelled = (r.findMany spec cancelled).map List.head? := by
  simp only [findOne, findMany, Query.first_eq_head, ofStore_map, bind_map]

theorem any_eq_count_pos :
    r.any spec cancelled = (r.count spec cancelled).map fun n => decide (0 < n) := by
  simp only [any, count, Query.any_eq_count_pos, ofStore_map, bind_map]

theorem findProjected_eq_map {selector : Selector ρ α} (chosen : spec.selector = some selector) :
    r.findProjected spec selector.result cancelled =
      (r.findMany spec cancelled).map (List.map selector.project) := by
  have fits : selector.projectTo? selector.result = some selector.project := dif_pos rfl
  rw [findProjected, chosen]
  dsimp only
  rw [fits]
  cases r.findMany spec cancelled <;> rfl

variable {spec}

theorem findPaged_totalCount {size : Count} (sized : spec.take = some size) :
    (r.findPaged spec cancelled).map PageResult.totalCount = r.count spec cancelled := by
  rw [r.findPaged_eq sized, count_eq_length, map_map]
  rfl

theorem findPaged_items {size : Count} (sized : spec.take = some size) :
    (r.findPaged spec cancelled).map PageResult.items = r.findMany spec cancelled := by
  rw [r.findPaged_eq sized, findMany_window r spec, map_map]
  rfl

structure ReadsAgree (r : Repository ι α) (spec : Specification ρ α) (cancelled : Bool) : Prop where
  one : r.findOne spec cancelled = (r.findMany spec cancelled).map List.head?
  count : r.count spec cancelled = (r.findMany spec.withoutPaging cancelled).map List.length
  any : r.any spec cancelled = (r.count spec cancelled).map fun n => decide (0 < n)
  paged : ∀ page, r.findPaged spec cancelled = .ok page →
    r.count spec cancelled = .ok page.totalCount ∧ r.findMany spec cancelled = .ok page.items
  sized : ∀ size, spec.take = some size →
    (r.findPaged spec cancelled).map PageResult.totalCount = r.count spec cancelled ∧
      (r.findPaged spec cancelled).map PageResult.items = r.findMany spec cancelled
  projected : ∀ selector, spec.selector = some selector →
    r.findProjected spec selector.result cancelled =
      (r.findMany spec cancelled).map (List.map selector.project)
  countWindowless : ∀ paging limit,
    r.count (spec.withWindow paging limit) cancelled = r.count spec cancelled
  anyWindowless : ∀ paging limit,
    r.any (spec.withWindow paging limit) cancelled = r.any spec cancelled
  totalWindowless : ∀ paging limit size, (spec.withWindow paging limit).take = some size →
    (r.findPaged (spec.withWindow paging limit) cancelled).map PageResult.totalCount =
      r.count spec cancelled

theorem reads_agree (r : Repository ι α) (spec : Specification ρ α) (cancelled : Bool) :
    r.ReadsAgree spec cancelled where
  one := r.findOne_eq_head spec cancelled
  count := r.count_eq_length spec cancelled
  any := r.any_eq_count_pos spec cancelled
  paged := by
    intro page found
    obtain ⟨size, -, total, counted, items, listed, rfl⟩ := findPaged_ok_iff.1 found
    exact ⟨counted, listed⟩
  sized := fun _ sized =>
    ⟨r.findPaged_totalCount cancelled sized, r.findPaged_items cancelled sized⟩
  projected := fun _ => r.findProjected_eq_map spec cancelled
  countWindowless := fun _ _ => rfl
  anyWindowless := fun _ _ => rfl
  totalWindowless := fun _ _ _ sized => r.findPaged_totalCount cancelled sized

section

open Sample

def secondCounterId : Specification ResultType Counter :=
  { secondCounter with selector := some (integerOf counters "Id") }

-- Of the three different counters the window shows one, and a window past the last none.
theorem secondCounterId_reads :
    ∃ page, countersRepository.findPaged secondCounterId false = .ok page ∧ page.totalCount = 3 ∧
      countersRepository.count secondCounterId false = .ok page.totalCount ∧
      countersRepository.findMany secondCounterId false = .ok page.items ∧
      countersRepository.findOne secondCounterId false =
        (countersRepository.findMany secondCounterId false).map List.head? ∧
      secondCounterId.selector = some (integerOf counters "Id") ∧
      countersRepository.findProjected secondCounterId .integer false =
        (countersRepository.findMany secondCounterId false).map
          (List.map (integerOf counters "Id").project) ∧
      countersRepository.findProjected secondCounterId .integer false = .ok [(2 : Int64)] ∧
      (secondCounterId.withWindow (some ⟨7, some 2⟩) none).take = some 2 ∧
      countersRepository.findMany (secondCounterId.withWindow (some ⟨7, some 2⟩) none) false =
        .ok [] ∧
      (countersRepository.findPaged (secondCounterId.withWindow (some ⟨7, some 2⟩) none) false).map
        PageResult.totalCount = countersRepository.count secondCounterId false := by
  have agree := reads_agree countersRepository secondCounterId false
  obtain ⟨counted, listed⟩ := agree.paged _ rfl
  exact ⟨_, rfl, rfl, counted, listed, agree.one, rfl, agree.projected _ rfl, rfl, rfl, rfl,
    agree.totalWindowless _ _ _ rfl⟩

end

end Repository

end EntityQuery
