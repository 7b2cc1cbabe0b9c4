import EntityQuery.Proofs.Store.Query
import EntityQuery.Sample.Record
import EntityQuery.Store.Session

set_option autoImplicit false

namespace EntityQuery

variable {ι α : Type}

theorem Query.materialize_error (E : Entity ι α) (q : Query α) (cancelled : Bool)
    (terminal : Terminal) :
    errorOf? (q.materialize E cancelled terminal) =
      if cancelled then some .cancelled else q.fault := by
  cases terminal <;>
    simp only [materialize, toList, first, count, any, errorOf?_map, execute_error] <;> rfl

namespace Session

variable {E : Entity ι α}

def faultAfter (fault : Option StoreError) : List (Action α) → Option StoreError
  | [] => fault
  | .failWith fault' :: actions => faultAfter fault' actions
  | _ :: actions => faultAfter fault actions

theorem step_store_fault (s : Session α) (action : Action α) :
    (s.step E action).store.fault = faultAfter s.store.fault [action] := by
  cases action with
  | refine name r =>
    simp only [step]
    split
    · split <;> rfl
    · rfl
  | _ => rfl

theorem faultAfter_cons (fault : Option StoreError) (action : Action α)
    (actions : List (Action α)) :
    faultAfter fault (action :: actions) = faultAfter (faultAfter fault [action]) actions := by
  cases action <;> rfl

theorem faultAfter_of_unset (fault : Option StoreError) (actions : List (Action α))
    (unset : ∀ fault', .failWith fault' ∉ actions) : faultAfter fault actions = fault := by
  induction actions generalizing fault with
  | nil => rfl
  | cons action actions ih =>
    have rest := ih fault fun fault' mem => unset fault' (List.mem_cons_of_mem _ mem)
    cases action with
    | failWith fault' => exact absurd List.mem_cons_self (unset fault')
    | _ => exact rest

theorem run_store_fault (s : Session α) (actions : List (Action α)) :
    (s.run E actions).store.fault = faultAfter s.store.fault actions := by
  induction actions generalizing s with
  | nil => rfl
  | cons action actions ih =>
    rw [faultAfter_cons, ← step_store_fault (E := E)]
    exact ih (s.step E action)

theorem held?_release (s : Session α) (name name' : String) :
    (s.release name).held? name' = if name = name' then none else s.held? name' := by
  rw [held?, release, List.find?_filter]
  by_cases same : name = name'
  next => simp [same]
  next =>
    rw [if_neg same, held?]
    congr 2
    funext entry
    by_cases own : entry.1 = name' <;> simp [own, Ne.symm same]

theorem held?_hold (s : Session α) (name name' : String) (q : Query α) :
    (s.hold name q).held? name' = if name = name' then some q else s.held? name' := by
  have others := s.held?_release name name'
  rw [held?, release] at others
  rw [held?, hold, List.find?_cons]
  by_cases same : name = name'
  next => simp [same]
  next => simpa [same] using others

def Action.query? : Action α → Option String
  | start name => some name
  | refine name _ => some name
  | materialize name _ _ => some name
  | _ => none

theorem step_held_other (s : Session α) {action : Action α} {name : String}
    (other : action.query? ≠ some name) : (s.step E action).held? name = s.held? name := by
  cases action with
  | insert row => rfl
  | failWith fault => rfl
  | start name' =>
    rw [step, held?_hold, if_neg fun own => other (congrArg some own)]
  | refine name' r =>
    have apart : name' ≠ name := fun own => other (congrArg some own)
    simp only [step]
    split
    · split
      · rw [held?_hold, if_neg apart]
      · rw [held?_release, if_neg apart]
    · rfl
  | materialize name' cancelled terminal =>
    rw [step, held?_release, if_neg fun own => other (congrArg some own)]

theorem run_held_other (s : Session α) {actions : List (Action α)} {name : String}
    (others : ∀ action ∈ actions, action.query? ≠ some name) :
    (s.run E actions).held? name = s.held? name := by
  induction actions generalizing s with
  | nil => rfl
  | cons action actions ih =>
    obtain ⟨own, rest⟩ := List.forall_mem_cons.1 others
    exact (ih (s.step E action) rest).trans (step_held_other s own)

theorem step_held {s : Session α} {action : Action α} {name : String} {q : Query α}
    (same : action ≠ .start name) (h : (s.step E action).held? name = some q) :
    ∃ old, s.held? name = some old ∧ q.fault = old.fault := by
  by_cases own : action.query? = some name
  next =>
    cases action with
    | insert row => cases own
    | failWith fault => cases own
    | start name' =>
      cases own
      exact absurd rfl same
    | refine name' r =>
      cases own
      simp only [step] at h
      split at h
      next old found =>
        split at h
        next refined step =>
          rw [held?_hold, if_pos rfl] at h
          cases h
          exact ⟨old, found, (Query.refine_extends step).fault⟩
        next =>
          rw [held?_release, if_pos rfl] at h
          cases h
      next missing =>
        rw [missing] at h
        cases h
    | materialize name' cancelled terminal =>
      cases own
      rw [step, held?_release, if_pos rfl] at h
      cases h
  next =>
    rw [step_held_other s own] at h
    exact ⟨q, h, rfl⟩

theorem run_held {s : Session α} {actions : List (Action α)} {name : String} {q : Query α}
    (same : .start name ∉ actions) (h : (s.run E actions).held? name = some q) :
    ∃ old, s.held? name = some old ∧ q.fault = old.fault := by
  induction actions generalizing s with
  | nil => exact ⟨q, h, rfl⟩
  | cons action actions ih =>
    rw [List.mem_cons, not_or] at same
    obtain ⟨next, found, later⟩ := ih same.2 h
    obtain ⟨old, before, first⟩ := step_held (Ne.symm same.1) found
    exact ⟨old, before, later.trans first⟩

def Action.isRead : Action α → Bool
  | insert _ => false
  | failWith _ => false
  | _ => true

theorem run_store {actions : List (Action α)} (reads : ∀ action ∈ actions, action.isRead = true)
    (s : Session α) : (s.run E actions).store = s.store := by
  induction actions generalizing s with
  | nil => rfl
  | cons action actions ih =>
    obtain ⟨read, rest⟩ := List.forall_mem_cons.1 reads
    refine (ih rest (s.step E action)).trans ?_
    cases action with
    | insert row | failWith fault => cases read
    | refine name r =>
      simp only [step]
      split
      · split <;> rfl
      · rfl
    | _ => rfl

theorem run_refine (s : Session α) (name : String) (rs : List Refinement) :
    (s.run E (rs.map (.refine name))).held? name =
      (s.held? name).bind fun q => (q.refineAll E rs).toOption := by
  induction rs generalizing s with
  | nil => cases held : s.held? name <;> simp [run, held, Query.refineAll] <;> rfl
  | cons r rs ih =>
    rw [List.map_cons]
    refine (ih (s.step E (.refine name r))).trans ?_
    simp only [step]
    cases held : s.held? name with
    | none => simp [held]
    | some q =>
      cases refined : q.refine E r with
      | ok next =>
        simp only [refined, held?_hold, if_pos, Option.bind_some, Query.refineAll,
          List.foldlM_cons]
        rfl
      | error e =>
        simp only [refined, held?_release, if_pos, Option.bind_none, Option.bind_some,
          Query.refineAll, List.foldlM_cons]
        rfl

/-- A query reports the fault that was set when it was started. That is the fault of the store only
as long as no other is set. A query that is left alone meanwhile has an answer. -/
theorem materialize_reports_fault_of_start (E : Entity ι α) (store : Store α)
    (before between : List (Action α)) (name : String) (same : .start name ∉ between)
    (terminal : Terminal) :
    let s := (start store).run E (before ++ .start name :: between)
    (∀ result, s.answer? E (.materialize name false terminal) = some result →
      errorOf? result = faultAfter store.fault before ∧
        ((∀ fault, .failWith fault ∉ between) → errorOf? result = s.store.fault)) ∧
      ((∀ action ∈ between, action.query? ≠ some name) →
        ∃ result, s.answer? E (.materialize name false terminal) = some result) := by
  intro s
  have split : s = (((start store).run E before).step E (.start name)).run E between := by
    simp only [s, run, List.foldl_append, List.foldl_cons]
  have fresh : (((start store).run E before).step E (.start name)).held? name =
      some ((start store).run E before).store.query := by
    rw [step, held?_hold, if_pos rfl]
  constructor
  next =>
    intro result answered
    rw [answer?, Option.map_eq_some_iff] at answered
    obtain ⟨q, held, rfl⟩ := answered
    rw [Query.materialize_error, if_neg Bool.false_ne_true]
    rw [split] at held ⊢
    obtain ⟨first, started, fault⟩ := run_held same held
    rw [fresh, Option.some.injEq] at started
    have own : q.fault = faultAfter store.fault before := by
      rw [fault, ← started]
      exact run_store_fault _ _
    refine ⟨own, fun unset => ?_⟩
    rw [own, run_store_fault, faultAfter_of_unset _ between unset, step_store_fault,
      run_store_fault]
    rfl
  next =>
    intro others
    have held := run_held_other (E := E) (((start store).run E before).step E (.start name)) others
    rw [← split, fresh] at held
    rw [answer?, held]
    exact ⟨_, rfl⟩

section

open Sample

def oneCounter : Store Counter := .ofRows [⟨1, none⟩]

def outage : StoreError := .unavailable "down"

theorem outage_outlives_recovery :
    ∃ result, (.start "q" : Action Counter) ∉ [.insert ⟨2, none⟩, .refine "q" .distinct,
        .failWith none] ∧
      ((start oneCounter).run counters ([.failWith (some outage)] ++ .start "q" ::
        [.insert ⟨2, none⟩, .refine "q" .distinct, .failWith none])).answer? counters
          (.materialize "q" false .count) = some result ∧
      errorOf? result = some outage := by
  have same : (.start "q" : Action Counter) ∉ [.insert ⟨2, none⟩, .refine "q" .distinct,
      .failWith none] := by simp
  exact ⟨_, same, rfl, (materialize_reports_fault_of_start counters oneCounter
    [.failWith (some outage)] _ "q" same .count).1 _ rfl |>.1⟩

def heldThenDown : Session Counter :=
  (start oneCounter).run counters [.start "q", .failWith (some outage)]

def startedThenUp : Session Counter :=
  (start oneCounter).run counters [.failWith (some outage), .start "q", .failWith none]

theorem held_query_misses_fault :
    heldThenDown.store.fault = some outage ∧
      heldThenDown.answer? counters (.materialize "q" false .toList) =
        some (.ok (.rows [⟨1, none⟩])) ∧
      startedThenUp.store.fault = none ∧
      startedThenUp.answer? counters (.materialize "q" false .toList) = some (.error outage) :=
  ⟨rfl, rfl, rfl, rfl⟩

end

end Session

end EntityQuery
