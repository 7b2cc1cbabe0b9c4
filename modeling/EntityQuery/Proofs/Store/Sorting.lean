import EntityQuery.Proofs.Store.Query
import EntityQuery.Proofs.Store.Rows
import EntityQuery.Sample.Record

set_option autoImplicit false

namespace EntityQuery

variable {ι α : Type}

namespace Refinement

def sorts : Refinement → Bool
  | orderBy _ | thenBy _ => true
  | _ => false

def condition? : Refinement → Option Expr
  | filter e => some e
  | _ => none

def arranges (r : Refinement) : Bool :=
  r.sorts || r.condition?.isSome

/-- The secondary keys before the first primary key; then each primary key with the secondary keys
that follow it. -/
def keyBlocks : List Refinement → List SortCriterion × List (List SortCriterion)
  | [] => ([], [])
  | orderBy c :: rs => ([], (c :: (keyBlocks rs).1) :: (keyBlocks rs).2)
  | thenBy c :: rs => (c :: (keyBlocks rs).1, (keyBlocks rs).2)
  | _ :: rs => keyBlocks rs

/-- The block of the last primary key first, and what came before all primary keys last. -/
def sortKeys (rs : List Refinement) : List SortCriterion :=
  (keyBlocks rs).2.reverse.flatten ++ (keyBlocks rs).1

def keysAfter (keys older : List SortCriterion) (rs : List Refinement) : List SortCriterion :=
  (keyBlocks rs).2.reverse.flatten ++ (keys ++ (keyBlocks rs).1) ++ older

def passes (E : Entity ι α) (rs : List Refinement) (row : α) : Bool :=
  (rs.filterMap condition?).all fun e => E.satisfies e row

section

variable (keys older : List SortCriterion) (c : SortCriterion) (rs : List Refinement)

theorem keysAfter_nil : keysAfter keys older [] = keys ++ older := by
  simp [keysAfter, keyBlocks]

theorem keysAfter_orderBy :
    keysAfter keys older (orderBy c :: rs) = keysAfter [c] (keys ++ older) rs := by
  simp [keysAfter, keyBlocks]

theorem keysAfter_thenBy :
    keysAfter keys older (thenBy c :: rs) = keysAfter (keys ++ [c]) older rs := by
  simp [keysAfter, keyBlocks]

theorem keysAfter_empty : keysAfter [] [] rs = sortKeys rs := by
  simp [keysAfter, sortKeys]

theorem subset_keysAfter : keys ++ older ⊆ keysAfter keys older rs := by
  intro d mem
  simp only [keysAfter, List.mem_append] at mem ⊢
  tauto

theorem keyBlocks_filter_sorts : keyBlocks (rs.filter sorts) = keyBlocks rs := by
  induction rs with
  | nil => rfl
  | cons r rs ih =>
    rw [List.filter_cons]
    cases r <;> simp [sorts, keyBlocks, ih]

end

section

variable (E : Entity ι α) {rs moved : List Refinement}

theorem passes_perm (h : (moved.filterMap condition?).Perm (rs.filterMap condition?)) :
    passes E moved = passes E rs := by
  funext row
  exact h.all_eq

theorem filter_passes (e : Expr) (rows : List α) :
    rows.filter (passes E (filter e :: rs)) =
      (rows.filter (E.satisfies e)).filter (passes E rs) := by
  rw [List.filter_filter]
  congr 1
  funext row
  exact Bool.and_comm _ _

theorem run_arranging (keys older : List SortCriterion) (rows : List α)
    (arranging : ∀ r ∈ rs, r.arranges)
    (unmixed : ∀ c ∈ keysAfter keys older rs, E.Unmixed c.field rows) :
    RowOp.run E keys (rs.filterMap rowOp?) (E.sortRows (keys ++ older) rows) =
      E.sortRows (keysAfter keys older rs) (rows.filter (passes E rs)) := by
  -- The rows are sorted by all keys so far, of which the store has only `keys` at hand.
  induction rs generalizing keys older rows with
  | nil =>
    have all : rows.filter (passes E []) = rows := List.filter_eq_self.2 fun _ _ => rfl
    rw [keysAfter_nil, all]
    rfl
  | cons r rs ih =>
    obtain ⟨first, later⟩ := List.forall_mem_cons.1 arranging
    cases r with
    | filter e =>
      have sofar : ∀ c ∈ keys ++ older, E.Unmixed c.field rows := fun c mem =>
        unmixed c (subset_keysAfter keys older rs mem)
      have rest := ih keys older (rows.filter (E.satisfies e)) later fun c mem =>
        (unmixed c mem).subset (List.filter_subset_self rows)
      rw [← E.filter_sortRows _ _ _ sofar, ← filter_passes] at rest
      exact rest
    | orderBy c =>
      rw [keysAfter_orderBy] at unmixed ⊢
      have step := E.sortRows_sortRows [c] (keys ++ older) rows fun d mem =>
        unmixed d (subset_keysAfter [c] (keys ++ older) rs mem)
      change RowOp.run E [c] (rs.filterMap rowOp?) (E.sortRows [c] (E.sortRows _ rows)) = _
      rw [step]
      exact ih [c] (keys ++ older) rows later unmixed
    | thenBy c =>
      rw [keysAfter_thenBy] at unmixed ⊢
      have step := E.sortRows_extend keys [c] older rows fun d mem =>
        unmixed d (subset_keysAfter (keys ++ [c]) older rs mem)
      change RowOp.run E (keys ++ [c]) (rs.filterMap rowOp?)
        (E.sortRows (keys ++ [c]) (E.sortRows _ rows)) = _
      rw [step]
      exact ih (keys ++ [c]) older rows later unmixed
    | _ => cases first

end

end Refinement

namespace Query

open Refinement

def Lists (E : Entity ι α) (q : Query α) (rs : List Refinement) (rows : List α) : Prop :=
  ∃ q', q.refineAll E rs = .ok q' ∧ q'.toList E false = .ok rows

variable {E : Entity ι α} {q : Query α} {rs : List Refinement}

theorem lists_of_arranging (fresh : q.pipeline = []) (live : q.fault = none)
    (arranging : ∀ r ∈ rs, r.arranges) :
    q.Lists E rs (RowOp.run E [] (rs.filterMap rowOp?) (q.visibleRows E)) := by
  have known : ∀ path ∈ rs.filterMap path?,
      ∃ links, E.schema.resolveRelations? path = some links := by
    intro path mem
    obtain ⟨r, own, isPath⟩ := List.mem_filterMap.1 mem
    have arranged := arranging r own
    cases r with
    | includeLink op | includePath path => cases arranged
    | _ => cases isPath
  obtain ⟨q', ok, -⟩ := refineAll_ok (q := q) known
  refine ⟨q', ok, ?_⟩
  have extended := refineAll_extends ok
  have kept : rs.any optsOut = false := by
    refine List.any_eq_false.2 fun r own => ?_
    have arranged := arranging r own
    cases r with
    | ignoreStoreFilters => cases arranged
    | _ => exact Bool.false_ne_true
  have ignore : q'.ignoreStoreFilters = q.ignoreStoreFilters := by
    rw [extended.ignoreStoreFilters, kept, Bool.or_false]
  have pipeline : q'.pipeline = rs.filterMap rowOp? := by
    rw [extended.pipeline, fresh, List.nil_append]
  simp [toList, execute, visibleRows, extended.fault, live, pipeline, extended.rows,
    extended.storeFilter, ignore]

/--
Filters and sorts in any order come to one stable sort of the rows that pass all the filters. The
same rows come in the same order when the filters are moved, among themselves or past the sorts.
-/
theorem arranged_by_one_sort (fresh : q.pipeline = []) (live : q.fault = none)
    (arranging : ∀ r ∈ rs, r.arranges)
    (unmixed : ∀ c ∈ sortKeys rs, E.Unmixed c.field (q.visibleRows E)) :
    ∃ rows, q.Lists E rs rows ∧
      rows = ((q.visibleRows E).filter (passes E rs)).mergeSort
        (fun a b => (E.compareBy (sortKeys rs) a b).isLE) ∧
      rows.Perm ((q.visibleRows E).filter (passes E rs)) ∧
      ∀ moved : List Refinement, (∀ r ∈ moved, r.arranges) → moved.filter sorts = rs.filter sorts →
        (moved.filterMap condition?).Perm (rs.filterMap condition?) → q.Lists E moved rows := by
  -- Nothing is sorted before the first refinement.
  have arranged {some : List Refinement} (arranging : ∀ r ∈ some, r.arranges)
      (unmixed : ∀ c ∈ sortKeys some, E.Unmixed c.field (q.visibleRows E)) :
      q.Lists E some (E.sortRows (sortKeys some) ((q.visibleRows E).filter (passes E some))) := by
    have listed := lists_of_arranging (E := E) fresh live arranging
    have run := run_arranging E [] [] (q.visibleRows E) arranging (by rwa [keysAfter_empty])
    rw [List.append_nil, E.sortRows_nil, keysAfter_empty] at run
    rwa [run] at listed
  have narrowed : ∀ c ∈ sortKeys rs, E.Unmixed c.field ((q.visibleRows E).filter (passes E rs)) :=
    fun c mem => (unmixed c mem).subset (List.filter_subset_self _)
  refine ⟨_, arranged arranging unmixed, E.sortRows_eq_mergeSort _ _ narrowed, E.perm_sortRows _ _,
    ?_⟩
  intro moved alike sameSorts sameFilters
  have sameKeys : sortKeys moved = sortKeys rs := by
    rw [sortKeys, sortKeys, ← keyBlocks_filter_sorts moved, sameSorts, keyBlocks_filter_sorts]
  have listed := arranged alike (by rwa [sameKeys])
  rwa [sameKeys, passes_perm E sameFilters] at listed

section

open Sample

def threeRatios : Query Counter :=
  .start [⟨1, some Binary64.zero⟩, ⟨2, none⟩, ⟨3, some Binary64.zero⟩, ⟨4, none⟩]
    (some (.compare "Id" .ne (.integer 4))) none

def rearranged : List Refinement :=
  [.thenBy ⟨"Id", .descending⟩, .filter (.compare "Id" .gt (.integer 0)),
    .orderBy ⟨"Ratio", .descending⟩]

theorem threeRatios_rearranged :
    threeRatios.pipeline = [] ∧ threeRatios.fault = none ∧
      (∀ r ∈ rearranged, r.arranges = true) ∧
      sortKeys rearranged = [⟨"Ratio", .descending⟩, ⟨"Id", .descending⟩] ∧
      threeRatios.Lists counters rearranged
        [⟨3, some Binary64.zero⟩, ⟨1, some Binary64.zero⟩, ⟨2, none⟩] ∧
      threeRatios.Lists counters [rearranged[0], rearranged[2], rearranged[1]]
        [⟨3, some Binary64.zero⟩, ⟨1, some Binary64.zero⟩, ⟨2, none⟩] := by
  have arranging : ∀ r ∈ rearranged, r.arranges = true := by decide
  have unmixed : ∀ c ∈ sortKeys rearranged,
      counters.Unmixed c.field (threeRatios.visibleRows counters) := by
    unfold Entity.Unmixed
    decide
  have fresh : threeRatios.pipeline = [] := rfl
  have live : threeRatios.fault = none := rfl
  obtain ⟨rows, listed, -, -, moved⟩ := arranged_by_one_sort fresh live arranging unmixed
  have again := moved [rearranged[0], rearranged[2], rearranged[1]] (by decide) rfl (.refl _)
  obtain ⟨q', refined, answered⟩ := listed
  cases refined
  obtain rfl : _ = rows := Except.ok.inj answered
  exact ⟨fresh, live, arranging, rfl, ⟨_, rfl, answered⟩, again⟩

end

end Query

end EntityQuery
