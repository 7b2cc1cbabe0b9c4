import EntityQuery.Proofs.Except
import EntityQuery.Store.Query

set_option autoImplicit false

namespace EntityQuery

variable {ι α : Type}

namespace Refinement

def rowOp? : Refinement → Option RowOp
  | filter e => some (.filter e)
  | groupBy key => some (.groupBy key)
  | distinct => some .distinct
  | orderBy c => some (.orderBy c)
  | thenBy c => some (.thenBy c)
  | skip count => some (.skip count)
  | take count => some (.take count)
  | _ => none

def path? : Refinement → Option String
  | includeLink op => some op.navigation
  | includePath path => some path
  | _ => none

def optsOut : Refinement → Bool
  | ignoreStoreFilters => true
  | _ => false

end Refinement

namespace Query

structure Extends (q q' : Query α) (rs : List Refinement) : Prop where
  rows : q'.rows = q.rows
  storeFilter : q'.storeFilter = q.storeFilter
  fault : q'.fault = q.fault
  pipeline : q'.pipeline = q.pipeline ++ rs.filterMap Refinement.rowOp?
  ignoreStoreFilters :
    q'.ignoreStoreFilters = (q.ignoreStoreFilters || rs.any Refinement.optsOut)

theorem Extends.trans {q q' q'' : Query α} {rs rs' : List Refinement} (first : Extends q q' rs)
    (second : Extends q' q'' rs') : Extends q q'' (rs ++ rs') where
  rows := second.rows.trans first.rows
  storeFilter := second.storeFilter.trans first.storeFilter
  fault := second.fault.trans first.fault
  pipeline := by
    rw [second.pipeline, first.pipeline, List.filterMap_append, List.append_assoc]
  ignoreStoreFilters := by
    rw [second.ignoreStoreFilters, first.ignoreStoreFilters, List.any_append, Bool.or_assoc]

theorem attach_extends {E : Entity ι α} {q q' : Query α} {path : String} {r : Refinement}
    (h : q.attach E path = .ok q') (hrow : r.rowOp? = none) (hopt : r.optsOut = false) :
    Extends q q' [r] := by
  rw [attach] at h
  split at h
  · cases h
    constructor <;> simp [record, hrow, hopt]
  · cases h

theorem refine_extends {E : Entity ι α} {q q' : Query α} {r : Refinement}
    (h : q.refine E r = .ok q') : Extends q q' [r] := by
  cases r with
  | includeLink op => exact attach_extends h rfl rfl
  | includePath path => exact attach_extends h rfl rfl
  | _ =>
    cases h
    constructor <;> simp [record, andThen, Refinement.rowOp?, Refinement.optsOut]

theorem refineAll_extends {E : Entity ι α} {q q' : Query α} {rs : List Refinement}
    (h : q.refineAll E rs = .ok q') : Extends q q' rs := by
  induction rs generalizing q with
  | nil =>
    cases h
    constructor <;> simp
  | cons r rs ih =>
    rw [refineAll, List.foldlM_cons, bind_ok_iff] at h
    obtain ⟨next, step, rest⟩ := h
    exact (refine_extends step).trans (ih rest)

theorem Extends.execute_eq {E : Entity ι α} {q q' : Query α} {rs : List Refinement}
    (h : Extends q q' rs) (hrow : rs.filterMap Refinement.rowOp? = [])
    (hopt : rs.any Refinement.optsOut = false) (cancelled : Bool) :
    q'.execute E cancelled = q.execute E cancelled := by
  have pipeline : q'.pipeline = q.pipeline := by rw [h.pipeline, hrow, List.append_nil]
  have ignore : q'.ignoreStoreFilters = q.ignoreStoreFilters := by
    rw [h.ignoreStoreFilters, hopt, Bool.or_false]
  simp only [execute, visibleRows, pipeline, ignore, h.rows, h.storeFilter, h.fault]

theorem execute_ok {E : Entity ι α} {q : Query α} {cancelled : Bool} {rows : List α}
    (h : q.execute E cancelled = .ok rows) :
    cancelled = false ∧ q.fault = none ∧ rows = RowOp.run E [] q.pipeline (q.visibleRows E) := by
  rw [execute] at h
  cases cancelled with
  | true => simp at h
  | false =>
    cases fault : q.fault with
    | some fault => simp [fault] at h
    | none => simp_all

theorem execute_error (E : Entity ι α) (q : Query α) (cancelled : Bool) :
    errorOf? (q.execute E cancelled) = if cancelled then some .cancelled else q.fault := by
  rw [execute]
  cases cancelled with
  | true => rfl
  | false => cases q.fault <;> rfl

section

variable {E : Entity ι α} {q q' : Query α} {r : Refinement} {rs : List Refinement}

theorem attach_ok {path : String} {links : List (RelationDescriptor ι)}
    (known : E.schema.resolveRelations? path = some links) :
    ∃ q', q.attach E path = .ok q' ∧ q'.includes = q.includes ++ [path] := by
  rw [attach, known]
  exact ⟨_, rfl, rfl⟩

theorem refine_ok (known : ∀ path ∈ r.path?,
      ∃ links, E.schema.resolveRelations? path = some links) :
    ∃ q', q.refine E r = .ok q' ∧ q'.includes = q.includes ++ r.path?.toList := by
  cases r with
  | includeLink op | includePath path =>
    obtain ⟨links, resolved⟩ := known _ rfl
    exact attach_ok resolved
  | _ => exact ⟨_, rfl, by simp [record, andThen, Refinement.path?]⟩

theorem refineAll_ok (known : ∀ path ∈ rs.filterMap Refinement.path?,
      ∃ links, E.schema.resolveRelations? path = some links) :
    ∃ q', q.refineAll E rs = .ok q' ∧
      q'.includes = q.includes ++ rs.filterMap Refinement.path? := by
  induction rs generalizing q with
  | nil => exact ⟨q, rfl, by simp⟩
  | cons r rs ih =>
    simp only [List.mem_filterMap, List.mem_cons, forall_exists_index, and_imp] at known ih
    obtain ⟨next, step, first⟩ := refine_ok (q := q) fun path mem => known path r (.inl rfl) mem
    obtain ⟨last, rest, later⟩ := ih (q := next) fun path r mem => known path r (.inr mem)
    refine ⟨last, ?_, ?_⟩
    · rw [refineAll, List.foldlM_cons, step]
      exact rest
    · rw [later, first, List.append_assoc]
      cases path : r.path? <;> simp [path]

end

def withRows (rows : List α) (q : Query α) : Query α :=
  { q with rows }

section

variable (E : Entity ι α) (rows : List α) (q : Query α)

theorem attach_withRows (path : String) :
    (q.withRows rows).attach E path = (q.attach E path).map (withRows rows) := by
  rw [attach, attach]
  cases E.schema.resolveRelations? path <;> rfl

theorem refine_withRows (r : Refinement) :
    (q.withRows rows).refine E r = (q.refine E r).map (withRows rows) := by
  cases r with
  | includeLink op => exact attach_withRows E rows q op.navigation
  | includePath path => exact attach_withRows E rows q path
  | _ => rfl

theorem refineAll_withRows (rs : List Refinement) :
    (q.withRows rows).refineAll E rs = (q.refineAll E rs).map (withRows rows) := by
  induction rs generalizing q with
  | nil => rfl
  | cons r rs ih =>
    rw [refineAll, refineAll, List.foldlM_cons, List.foldlM_cons, refine_withRows]
    cases q.refine E r with
    | error e => rfl
    | ok next => exact ih next

def LooksAlike : Prop :=
  (q.withRows rows).visibleRows E = q.visibleRows E

variable {E rows q}

theorem LooksAlike.execute (h : q.LooksAlike E rows) (cancelled : Bool) :
    (q.withRows rows).execute E cancelled = q.execute E cancelled := by
  rw [Query.execute, Query.execute, h]
  rfl

theorem LooksAlike.firstOnly (h : q.LooksAlike E rows) : q.firstOnly.LooksAlike E rows :=
  h

end

end Query

end EntityQuery
