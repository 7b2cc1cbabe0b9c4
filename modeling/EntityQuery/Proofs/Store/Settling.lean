import EntityQuery.Proofs.Store.Query
import EntityQuery.Proofs.Store.Rows

set_option autoImplicit false

namespace EntityQuery

variable {ι α : Type}

namespace RowOp

variable (E : Entity ι α)

theorem run_cons (keys : List SortCriterion) (op : RowOp) (ops : List RowOp) (rows : List α) :
    run E keys (op :: ops) rows = run E (op.keysAfter keys) ops (run E keys [op] rows) := by
  cases op <;> rfl

theorem settles_append (keys : List SortCriterion) (ops more : List RowOp) (rows : List α) :
    settles E keys (ops ++ more) rows =
      (settles E keys ops rows &&
        settles E (ops.foldl keysAfter keys) more (run E keys ops rows)) := by
  induction ops generalizing keys rows with
  | nil => simp [settles, run]
  | cons op ops ih =>
    rw [List.cons_append, settles, ih, settles, run_cons E keys op ops, List.foldl_cons,
      Bool.and_assoc]

theorem settles_of_no_sort {ops : List RowOp} (h : ∀ op ∈ ops, op.isSort = false)
    (keys : List SortCriterion) (rows : List α) :
    settles E keys ops rows = true ∧ ops.foldl keysAfter keys = keys := by
  induction ops generalizing keys rows with
  | nil => exact ⟨rfl, rfl⟩
  | cons op ops ih =>
    obtain ⟨first, rest⟩ := List.forall_mem_cons.1 h
    have same : op.keysAfter keys = keys := by
      cases op <;> first | rfl | cases first
    rw [settles, List.foldl_cons, same, first]
    exact ih rest keys _

theorem settles_no_sort_append {ops : List RowOp} (h : ∀ op ∈ ops, op.isSort = false)
    (keys : List SortCriterion) (more : List RowOp) (rows : List α) :
    settles E keys (ops ++ more) rows = settles E keys more (run E keys ops rows) := by
  obtain ⟨settled, same⟩ := settles_of_no_sort E h keys rows
  rw [settles_append, settled, same, Bool.true_and]

theorem settles_append_no_sort {more : List RowOp} (h : ∀ op ∈ more, op.isSort = false)
    (keys : List SortCriterion) (ops : List RowOp) (rows : List α) :
    settles E keys (ops ++ more) rows = settles E keys ops rows := by
  rw [settles_append, (settles_of_no_sort E h _ _).1, Bool.and_true]

theorem settles_thenBy (keys more : List SortCriterion) (rows : List α) :
    settles E keys (more.map thenBy) rows = true ↔
      ∀ some, some <+: more → some ≠ [] → sortSettles (E.compareBy (keys ++ some)) rows = true := by
  induction more generalizing keys rows with
  | nil =>
    simp only [List.map_nil, settles, true_iff, List.prefix_nil]
    exact fun some none given => absurd none given
  | cons c more ih =>
    have sorted : (run E keys [thenBy c] rows).Perm rows := E.perm_sortRows (keys ++ [c]) rows
    rw [List.map_cons, settles, Bool.and_eq_true]
    change sortSettles (E.compareBy (keys ++ [c])) rows = true ∧
      settles E (keys ++ [c]) (more.map thenBy) (run E keys [thenBy c] rows) = true ↔ _
    simp only [ih, sortSettles_perm sorted, List.append_assoc, List.singleton_append]
    constructor
    · rintro ⟨own, later⟩ some chosen given
      obtain ⟨rest, rfl, under⟩ := (List.prefix_cons_iff.1 chosen).resolve_left given
      by_cases last : rest = []
      next => exact last ▸ own
      next => exact later rest under last
    · intro all
      refine ⟨all [c] (by simp) (by simp), fun rest under given => ?_⟩
      exact all (c :: rest) (List.cons_prefix_cons.2 ⟨rfl, under⟩) (by simp)

theorem settles_orderBy (primary : SortCriterion) (more : List SortCriterion) (rows : List α) :
    settles E [] (orderBy primary :: more.map thenBy) rows = true ↔
      ∀ keys, keys <+: primary :: more → keys ≠ [] →
        sortSettles (E.compareBy keys) rows = true :=
  -- The first key sorts as if it came after none.
  settles_thenBy E [] (primary :: more) rows

end RowOp

namespace Query

variable (E : Entity ι α) (q : Query α) (cancelled : Bool)

theorem settles_eq :
    q.settles E cancelled =
      (cancelled || q.fault.isSome || RowOp.settles E [] q.pipeline (q.visibleRows E)) := by
  rw [settles, execute]
  cases cancelled with
  | true => rfl
  | false => cases q.fault <;> rfl

theorem settles_firstOnly : q.firstOnly.settles E cancelled = q.settles E cancelled := by
  have cut : ∀ op ∈ [RowOp.take 1], op.isSort = false := by simp [RowOp.isSort]
  rw [settles_eq, settles_eq]
  congr 1
  exact RowOp.settles_append_no_sort E cut [] q.pipeline (q.visibleRows E)

end Query

end EntityQuery
