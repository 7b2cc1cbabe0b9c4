import EntityQuery.Proofs.Repository.Faults
import EntityQuery.Proofs.Specification.Sortable
import EntityQuery.Proofs.Store.Session
import EntityQuery.Sample.Projection

set_option autoImplicit false

namespace EntityQuery

variable {ι ρ α : Type} [ResultTypes ρ]

theorem Outcome.of_eq_returned_iff {β : Type} {settled : Bool} {result result' : β} :
    Outcome.of settled result = .returned result' ↔ settled = true ∧ result = result' := by
  cases settled <;> simp [Outcome.of]

theorem Outcome.of_eq_unsettled_iff {β : Type} {settled : Bool} {result : β} :
    Outcome.of settled result = .unsettled ↔ settled = false := by
  cases settled <;> simp [Outcome.of]

namespace Repository

variable {r : Repository ι α} {spec : Specification ρ α} {cancelled : Bool}

theorem settles_firstOnly (r : Repository ι α) (spec : Specification ρ α) (cancelled : Bool) :
    r.settles spec cancelled Query.firstOnly = r.settles spec cancelled id := by
  rw [settles, settles]
  cases r.prepare spec with
  | ok q => exact q.settles_firstOnly r.entity cancelled
  | error e => rfl

theorem settles_of_fault {e : QueryError}
    (first : (r.faults spec cancelled).findSome? id = some e) :
    r.settles spec cancelled id = true := by
  rw [settles]
  cases prepared : r.prepare spec with
  | error e => rfl
  | ok q =>
    have failed : (errorOf? (q.execute r.entity cancelled)).map .store =
        (r.storeFaults cancelled).findSome? id := execute_error q prepared rfl
    have links := r.prepare_error spec
    rw [prepared] at links
    rw [faults, List.findSome?_append, ← links] at first
    change (r.storeFaults cancelled).findSome? id = some e at first
    rw [first, Query.execute_error] at failed
    dsimp only [id]
    rw [Query.settles_eq]
    cases cancelled <;> cases fault : q.fault <;> simp [fault] at failed ⊢

theorem settles_iff (clear : (r.faults spec cancelled).findSome? id = none) :
    r.settles spec cancelled id = true ↔
      spec.Sortable r.entity r.store.storeFilter r.store.rows := by
  rw [faults, List.findSome?_append, Option.or_eq_none_iff, ← prepare_error] at clear
  obtain ⟨noLinkFault, noStoreFault⟩ := clear
  obtain ⟨q, prepared⟩ := errorOf?_eq_none_iff.1 noLinkFault
  obtain ⟨pipeline, fault, rows, storeFilter, optsOut⟩ := prepare_ok prepared
  have failed : (errorOf? (q.execute r.entity cancelled)).map .store =
      (r.storeFaults cancelled).findSome? id := execute_error q prepared rfl
  rw [noStoreFault, Query.execute_error, Option.map_eq_none_iff] at failed
  rw [settles, prepared]
  dsimp only [id]
  have live : (cancelled || q.fault.isSome) = false := by
    cases cancelled <;> cases fault : q.fault <;> simp [fault] at failed ⊢
  rw [Query.settles_eq, live, Bool.false_or, pipeline, visibleRows_eq, rows, storeFilter, optsOut]
  exact spec.settles_rowOps r.entity r.store.storeFilter r.store.rows

theorem settles_withoutPaging (r : Repository ι α) (spec : Specification ρ α) (cancelled : Bool) :
    r.settles spec.withoutPaging cancelled id = r.settles spec cancelled id := by
  have same : r.faults spec.withoutPaging cancelled = r.faults spec cancelled := rfl
  cases first : (r.faults spec cancelled).findSome? id with
  | some e => rw [settles_of_fault (same ▸ first), settles_of_fault first]
  | none => exact Bool.eq_iff_iff.2 ((settles_iff (same ▸ first)).trans (settles_iff first).symm)

namespace Read

variable (read : Read ρ)

theorem settles_eq (takes : (read.ownFaults spec).findSome? id = none) :
    read.settles r spec cancelled = r.settles spec cancelled id := by
  cases read with
  | findMany => rfl
  | findOne => exact settles_firstOnly r spec cancelled
  | any => exact (settles_firstOnly r spec.withoutPaging cancelled).trans (settles_withoutPaging ..)
  | count => exact settles_withoutPaging r spec cancelled
  | findPaged =>
    have sized : spec.pageSize.isNone = false := by
      change spec.take.isNone = false
      cases size : spec.take <;> simp [ownFaults, size] at takes ⊢
    rw [settles, sized, settles_withoutPaging, Bool.and_self, Bool.false_or]
  | findProjected requested =>
    have fits : (spec.selector.bind fun selector => selector.projectTo? requested).isNone =
        false := by
      cases chosen : spec.selector with
      | none => simp [ownFaults, chosen] at takes
      | some selector =>
        by_cases same : selector.result = requested
        next => simp [Selector.projectTo?, same]
        next => simp [ownFaults, chosen, same, Option.filter] at takes
    rw [settles, fits, Bool.false_or]

theorem settles_of_ownFault {e : QueryError}
    (refused : (read.ownFaults spec).findSome? id = some e) :
    read.settles r spec cancelled = true := by
  cases read with
  | findPaged =>
    have unsized : spec.pageSize.isNone = true := by
      change spec.take.isNone = true
      cases size : spec.take <;> simp [ownFaults, size] at refused ⊢
    rw [settles, unsized, Bool.true_or]
  | findProjected requested =>
    have unfit : (spec.selector.bind fun selector => selector.projectTo? requested).isNone =
        true := by
      cases chosen : spec.selector with
      | none => rfl
      | some selector =>
        by_cases same : selector.result = requested
        next => simp [ownFaults, chosen, same, Option.filter] at refused
        next => simp [Selector.projectTo?, same]
    rw [settles, unfit, Bool.true_or]
  | _ => cases refused

variable {read}

theorem outcome_of_fault {e : QueryError}
    (first : (read.ownFaults spec ++ r.faults spec cancelled).findSome? id = some e) :
    read.outcome r spec cancelled = .returned (.error e) := by
  rw [outcome, Outcome.of_eq_returned_iff, ← errorOf?_eq_some_iff, read.run_error]
  refine ⟨?_, first⟩
  cases own : (read.ownFaults spec).findSome? id with
  | some e' => exact read.settles_of_ownFault own
  | none =>
    rw [List.findSome?_append, own, Option.none_or] at first
    rw [read.settles_eq own, settles_of_fault first]

theorem settles_iff (clear : (read.ownFaults spec ++ r.faults spec cancelled).findSome? id = none) :
    read.settles r spec cancelled = true ↔
      spec.Sortable r.entity r.store.storeFilter r.store.rows := by
  rw [List.findSome?_append, Option.or_eq_none_iff] at clear
  rw [read.settles_eq clear.1, Repository.settles_iff clear.2]

theorem outcome_of_sortable
    (clear : (read.ownFaults spec ++ r.faults spec cancelled).findSome? id = none)
    (sortable : spec.Sortable r.entity r.store.storeFilter r.store.rows) :
    ∃ answer, read.outcome r spec cancelled = .returned (.ok answer) := by
  obtain ⟨answer, answered⟩ := errorOf?_eq_none_iff.1 ((read.run_error).trans clear)
  exact ⟨answer, Outcome.of_eq_returned_iff.2 ⟨(settles_iff clear).2 sortable, answered⟩⟩

theorem outcome_of_not_sortable
    (clear : (read.ownFaults spec ++ r.faults spec cancelled).findSome? id = none)
    (unsortable : ¬spec.Sortable r.entity r.store.storeFilter r.store.rows) :
    read.outcome r spec cancelled = .unsettled := by
  rw [outcome, Outcome.of_eq_unsettled_iff, ← Bool.not_eq_true, settles_iff clear]
  exact unsortable

theorem outcome_error_iff {e : QueryError} :
    read.outcome r spec cancelled = .returned (.error e) ↔
      (read.ownFaults spec ++ r.faults spec cancelled).findSome? id = some e := by
  refine ⟨fun failed => ?_, outcome_of_fault⟩
  rw [← read.run_error, errorOf?_eq_some_iff]
  exact (Outcome.of_eq_returned_iff.1 failed).2

theorem outcome_configuration (s : Store α) (cancelled' : Bool) {e : QueryError}
    (configured : e.isConfigurationFault = true) :
    read.outcome (r.withStore s) spec cancelled' = .returned (.error e) ↔
      read.outcome r spec cancelled = .returned (.error e) := by
  have blamed (fault : Option QueryError) :
      fault = some e ↔ fault.filter QueryError.isConfigurationFault = some e := by
    simp [Option.filter_eq_some_iff, configured]
  rw [outcome_error_iff, outcome_error_iff, ← read.run_error, ← read.run_error, blamed,
    blamed (errorOf? _), read.run_configuration, read.run_configuration]
  rfl

end Read

def queryActions (name : String) (plan : Plan) : List (Session.Action α) :=
  .start name :: plan.map fun op => .refine name op.refinement

theorem run_queryActions (r : Repository ι α) (name : String) {plan : Plan}
    (compiles : spec.compile = .ok plan) :
    ((Session.start r.store).run r.entity (queryActions name plan)).held? name =
      (r.prepare spec).toOption := by
  have refined := Session.run_refine (E := r.entity)
    ((Session.start r.store).hold name r.store.query) name (plan.map PlanOp.refinement)
  rw [Session.held?_hold, if_pos rfl, Option.bind_some] at refined
  rw [prepare, compiles, queryActions]
  exact (congrArg (fun actions => (Session.run r.entity _ actions).held? name)
    (List.map_map ..).symm).trans refined

/-- What comes of a read is settled by the first of the faults that applies. Without one it answers,
as long as its sorts have an order to go by. -/
structure FaultDecides (r : Repository ι α) (spec : Specification ρ α) (cancelled : Bool)
    (read : Read ρ) (fault : Option QueryError) : Prop where
  fails : ∀ e, read.outcome r spec cancelled = .returned (.error e) ↔ fault = some e
  answers : fault = none → spec.Sortable r.entity r.store.storeFilter r.store.rows →
    ∃ answer, read.outcome r spec cancelled = .returned (.ok answer)
  unsettled : fault = none → ¬spec.Sortable r.entity r.store.storeFilter r.store.rows →
    read.outcome r spec cancelled = .unsettled
  sortable : r.store.rows.length ≤ insertionLimit ∨
      (∀ c ∈ spec.orderings, r.entity.Unmixed c.field r.store.rows) →
    spec.Sortable r.entity r.store.storeFilter r.store.rows
  configuration : ∀ (s : Store α) (cancelled' : Bool) (e : QueryError),
    e.isConfigurationFault = true →
      (read.outcome (r.withStore s) spec cancelled' = .returned (.error e) ↔
        read.outcome r spec cancelled = .returned (.error e))
  store : ∀ name plan, spec.compile = .ok plan →
    let s := (Session.start r.store).run r.entity (queryActions name plan)
    s.held? name = (r.prepare spec).toOption ∧ s.store = r.store ∧
      ∀ terminal, (s.step r.entity (.materialize name cancelled terminal)).store = r.store

theorem first_fault_decides (r : Repository ι α) (spec : Specification ρ α) (cancelled : Bool)
    (read : Read ρ) :
    r.FaultDecides spec cancelled read
      ((read.ownFaults spec ++
        [spec.refusedLink?.map QueryError.chain,
          (spec.unknownPath? r.entity.schema).map fun path =>
            QueryError.chain (.unresolvedPath path r.entity.name),
          if cancelled then some (QueryError.store .cancelled) else none,
          r.store.fault.map QueryError.store]).findSome? id) where
  fails _ := Read.outcome_error_iff
  answers clear := Read.outcome_of_sortable clear
  unsettled clear := Read.outcome_of_not_sortable clear
  sortable
    | .inl few => Specification.sortable_of_few few
    | .inr unmixed => Specification.sortable_of_unmixed unmixed
  configuration s cancelled' _ configured := Read.outcome_configuration s cancelled' configured
  store := by
    intro name plan compiles s
    have reads : ∀ action ∈ queryActions (α := α) name plan, action.isRead = true := by
      simp [queryActions, Session.Action.isRead]
    have kept : s.store = r.store := Session.run_store reads _
    exact ⟨r.run_queryActions name compiles, kept, fun _ => kept⟩

section

open Sample

def lesser : Value := .integer 9007199254740992

def greater : Value := .integer 9007199254740993

def nearest : Value := .float ⟨0x4340000000000000⟩

def blurredScores : List Value :=
  [.integer 5, .integer 3] ++ List.replicate 9 greater ++ [nearest] ++ List.replicate 12 lesser

def scored (score : Value) : Node :=
  ⟨[("Score", score)]⟩

def scoresRepository : Repository Kind Node :=
  ⟨nodes, .ofRows (blurredScores.map scored), .default⟩

def byScore : Specification ρ Node :=
  { Specification.all with orderings := [⟨"Score", .ascending⟩] }

theorem byScore_not_sortable :
    ¬(byScore : Specification ρ Node).Sortable nodes scoresRepository.store.storeFilter
      scoresRepository.store.rows := by
  have all : (byScore : Specification ρ Node).kept nodes scoresRepository.store.storeFilter
      scoresRepository.store.rows = blurredScores.map scored := rfl
  rw [Specification.Sortable, all]
  rintro (few | order)
  · exact absurd few (by decide)
  · have up : (nodes.compareBy [⟨"Score", .ascending⟩] (scored greater) (scored nearest)).isLE := by
      decide +kernel
    have on : (nodes.compareBy [⟨"Score", .ascending⟩] (scored nearest) (scored lesser)).isLE := by
      decide +kernel
    have down : ¬(nodes.compareBy [⟨"Score", .ascending⟩] (scored greater)
        (scored lesser)).isLE := by
      decide +kernel
    have row {score : Value} (mem : score ∈ blurredScores) :
        scored score ∈ blurredScores.map scored := List.mem_map_of_mem mem
    exact down ((order _ List.prefix_rfl).isLE_trans
      (a := ⟨_, row (by simp [blurredScores])⟩) (b := ⟨_, row (by simp [blurredScores])⟩)
      (c := ⟨_, row (by simp [blurredScores])⟩) up on)

/-- No fault applies, and yet the rows are not sure to be counted: each of two neighbours ties with
the number that both round to. -/
theorem count_byScore_unsettled :
    ((Read.count : Read ResultType).ownFaults (byScore : Specification ResultType Node) ++
        scoresRepository.faults (byScore : Specification ResultType Node) false).findSome? id =
      none ∧
      ¬∃ answer, (Read.count : Read ResultType).outcome scoresRepository byScore false =
        .returned (.ok answer) := by
  refine ⟨by decide +kernel, ?_⟩
  rintro ⟨answer, answered⟩
  rw [Read.outcome_of_not_sortable (by decide +kernel) byScore_not_sortable] at answered
  cases answered

end

end Repository

end EntityQuery
