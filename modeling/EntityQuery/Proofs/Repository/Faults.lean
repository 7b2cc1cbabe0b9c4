import EntityQuery.Proofs.Plan.Faults
import EntityQuery.Proofs.Repository.Visibility
import EntityQuery.Repository.Read

set_option autoImplicit false

namespace EntityQuery

variable {ι ρ α : Type} [ResultTypes ρ]

namespace Repository

variable (r : Repository ι α) (spec : Specification ρ α) (cancelled : Bool)

theorem errorOf?_ofStore {β : Type} (result : Except StoreError β) :
    errorOf? (ofStore result) = (errorOf? result).map .store := by
  cases result <;> rfl

def linkFaults : List (Option QueryError) :=
  [spec.refusedLink?.map .chain,
    (spec.unknownPath? r.entity.schema).map fun path => .chain (.unresolvedPath path r.entity.name)]

def storeFaults : List (Option QueryError) :=
  [if cancelled then some (.store .cancelled) else none, r.store.fault.map .store]

theorem prepare_error : errorOf? (r.prepare spec) = (r.linkFaults spec).findSome? id := by
  rw [prepare, linkFaults]
  cases refused : spec.refusedLink? with
  | some e =>
    rw [← Specification.includeOps_error, errorOf?_eq_some_iff] at refused
    simp [Specification.compile, refused, errorOf?, bind, Except.bind]
  | none =>
    rw [← Specification.includeOps_error, errorOf?_eq_none_iff] at refused
    obtain ⟨includes, resolved⟩ := refused
    obtain ⟨plan, compiles⟩ := Specification.compile_of_includeOps resolved
    have paths := (Specification.compile_paths resolved compiles).trans
      (Specification.includeOps_paths resolved)
    rw [compiles]
    change errorOf? (r.store.query.refineAll r.entity (plan.map PlanOp.refinement)) = _
    cases unknown : spec.unknownPath? r.entity.schema with
    | some path =>
      rw [Specification.unknownPath?, ← paths] at unknown
      rw [Query.refineAll_error unknown]
      rfl
    | none =>
      rw [Specification.unknownPath?, ← paths] at unknown
      obtain ⟨q, applied, -⟩ := Query.refineAll_ok (q := r.store.query) (E := r.entity)
        fun path mem => by
          simpa [Option.ne_none_iff_exists'] using List.find?_eq_none.1 unknown path mem
      rw [applied]
      rfl

def faults : List (Option QueryError) :=
  r.linkFaults spec ++ r.storeFaults cancelled

variable {r spec cancelled}

theorem execute_error {q : Query α} (q' : Query α) (prepared : r.prepare spec = .ok q)
    (same : q'.fault = q.fault) :
    (errorOf? (q'.execute r.entity cancelled)).map .store =
      (r.storeFaults cancelled).findSome? id := by
  obtain ⟨-, fault, -⟩ := prepare_ok prepared
  rw [Query.execute_error, same, fault, storeFaults]
  cases cancelled <;> cases r.store.fault <;> rfl

theorem read_error {β : Type} {read : Query α → Except QueryError β}
    (h : ∀ q, r.prepare spec = .ok q → errorOf? (read q) = (r.storeFaults cancelled).findSome? id) :
    errorOf? (r.prepare spec >>= read) = (r.faults spec cancelled).findSome? id := by
  rw [errorOf?_bind h, prepare_error, faults, List.findSome?_append]

theorem findMany_error :
    errorOf? (r.findMany spec cancelled) = (r.faults spec cancelled).findSome? id :=
  read_error fun q prepared => by
    rw [errorOf?_ofStore, Query.toList, execute_error q prepared rfl]

theorem findOne_error :
    errorOf? (r.findOne spec cancelled) = (r.faults spec cancelled).findSome? id :=
  read_error fun q prepared => by
    rw [errorOf?_ofStore, Query.first, errorOf?_map,
      execute_error q.firstOnly prepared rfl]

-- Without paging a specification still asks for the same links.
theorem any_error : errorOf? (r.any spec cancelled) = (r.faults spec cancelled).findSome? id :=
  read_error fun q prepared => by
    rw [errorOf?_ofStore, Query.any, errorOf?_map,
      execute_error q.firstOnly prepared rfl]

theorem count_error : errorOf? (r.count spec cancelled) = (r.faults spec cancelled).findSome? id :=
  read_error fun q prepared => by
    rw [errorOf?_ofStore, Query.count, errorOf?_map, execute_error q prepared rfl]

namespace Read

def ownFaults (spec : Specification ρ α) : Read ρ → List (Option QueryError)
  | findPaged => [if spec.take.isNone then some .pagingNotEnabled else none]
  | findProjected requested =>
    [if spec.selector.isNone then some .missingProjection else none,
      (spec.selector.filter fun selector => selector.result ≠ requested).map fun selector =>
        .projectionMismatch (ResultTypes.typeName selector.result) (ResultTypes.typeName requested)]
  | _ => []

end Read

theorem findPaged_error : errorOf? (r.findPaged spec cancelled) =
    (Read.findPaged.ownFaults spec ++ r.faults spec cancelled).findSome? id := by
  have sized : spec.pageSize = spec.take := rfl
  rw [findPaged, Read.ownFaults, sized]
  cases spec.take with
  | none => rfl
  | some size =>
    -- The items can only fail where the total has failed before.
    have items (total : Nat) : errorOf? (do
        let items ← r.findMany spec cancelled
        let pageIndex := spec.pageIndex.getD 0
        return PageResult.of items pageIndex.toNat size.toNat total) =
        (r.faults spec cancelled).findSome? id := by
      rw [errorOf?_bind_pure, findMany_error]
    have both := errorOf?_bind (x := r.count spec cancelled) fun total _ => items total
    rw [count_error, Option.or_self] at both
    exact both

theorem findProjected_error (requested : ρ) :
    errorOf? (r.findProjected spec requested cancelled) =
      ((Read.findProjected requested).ownFaults spec ++ r.faults spec cancelled).findSome? id := by
  rw [findProjected, Read.ownFaults]
  cases spec.selector with
  | none => rfl
  | some selector =>
    by_cases fits : selector.result = requested
    next =>
      have rows := errorOf?_bind_pure (r.findMany spec cancelled) fun rows =>
        rows.map (fits ▸ selector.project)
      rw [findMany_error] at rows
      simpa [Selector.projectTo?, fits] using rows
    next =>
      have filtered : (some selector).filter (fun selector => selector.result ≠ requested) =
          some selector := by simp [Option.filter, fits]
      have mismatch : selector.projectTo? requested = none := dif_neg fits
      simp only [mismatch, filtered]
      rfl

theorem Read.run_error (read : Read ρ) : errorOf? (read.run r spec cancelled) =
    (read.ownFaults spec ++ r.faults spec cancelled).findSome? id := by
  cases read with
  | findMany => exact findMany_error
  | findOne => exact findOne_error
  | any => exact any_error
  | count => exact count_error
  | findPaged => exact findPaged_error
  | findProjected requested => exact findProjected_error requested

theorem storeFaults_configuration :
    ((r.storeFaults cancelled).findSome? id).filter QueryError.isConfigurationFault = none := by
  rw [storeFaults]
  cases cancelled <;> cases r.store.fault <;> rfl

theorem Read.run_configuration (read : Read ρ) :
    (errorOf? (read.run r spec cancelled)).filter QueryError.isConfigurationFault =
      ((read.ownFaults spec ++ r.linkFaults spec).findSome? id).filter
        QueryError.isConfigurationFault := by
  rw [read.run_error, faults, ← List.append_assoc, List.findSome?_append]
  cases (read.ownFaults spec ++ r.linkFaults spec).findSome? id with
  | some e => rfl
  | none => simpa using storeFaults_configuration

end Repository

end EntityQuery
