import EntityQuery.Store.Rows
import EntityQuery.Proofs.StableSort
import EntityQuery.Proofs.Value.Order
import Mathlib.Data.List.Perm.Subperm

set_option autoImplicit false

namespace EntityQuery

open Std

variable {ι α : Type} (E : Entity ι α)

namespace Entity

/-- The field does not hold an integer in one row and a float in another. -/
def Unmixed (field : String) (rows : List α) : Prop :=
  ∀ a ∈ rows, ∀ b ∈ rows, (E.value a field).mixes (E.value b field) = false

variable {E} in
theorem Unmixed.subset {field : String} {rows some : List α} (h : E.Unmixed field rows)
    (sub : some ⊆ rows) : E.Unmixed field some :=
  fun a ha b hb => h a (sub ha) b (sub hb)

theorem key_preorderOn (c : SortCriterion) (rows : List α) (h : E.Unmixed c.field rows) :
    PreorderOn (fun a b => c.direction.apply ((E.value a c.field).sortCompare (E.value b c.field)))
      rows := by
  have ascending : TransCmp fun a b : { x // x ∈ rows } =>
      (E.value a.1 c.field).sortCompare (E.value b.1 c.field) :=
    { eq_swap := OrientedCmp.eq_swap
      isLE_trans := fun {x y z} =>
        Value.sortCompare_trans (Value.not_blurs_of_unmixed (h x.1 x.2 y.1 y.2) _) }
  cases direction : c.direction with
  | ascending => exact ascending
  | descending =>
    have turned : TransCmp fun a b : { x // x ∈ rows } =>
        ((E.value a.1 c.field).sortCompare (E.value b.1 c.field)).swap := by
      simp only [← Value.sortCompare_swap]
      exact TransCmp.opposite
    exact turned

theorem compareBy_preorderOn (keys : List SortCriterion) (rows : List α)
    (h : ∀ c ∈ keys, E.Unmixed c.field rows) : PreorderOn (E.compareBy keys) rows := by
  induction keys with
  | nil => exact { eq_swap := rfl, isLE_trans := fun _ _ => rfl }
  | cons c keys ih =>
    have head : TransCmp _ := E.key_preorderOn c rows (h c (by simp))
    have tail : TransCmp _ := ih fun d mem => h d (by simp [mem])
    exact inferInstanceAs (TransCmp (compareLex
      (fun a b : { x // x ∈ rows } =>
        c.direction.apply ((E.value a.1 c.field).sortCompare (E.value b.1 c.field)))
      (fun a b => E.compareBy keys a.1 b.1)))

theorem compareBy_append (keys more : List SortCriterion) :
    E.compareBy (keys ++ more) = compareLex (E.compareBy keys) (E.compareBy more) := by
  funext a b
  induction keys with
  | nil => rfl
  | cons c keys ih =>
    simp only [List.cons_append, compareBy, ih, compareLex, Ordering.then_assoc]

theorem compareBy_again (keys more older : List SortCriterion) :
    E.compareBy (keys ++ more ++ (keys ++ older)) = E.compareBy (keys ++ more ++ older) := by
  funext a b
  simp only [compareBy_append, compareLex]
  cases E.compareBy keys a b <;> simp

theorem sortRows_sortRows (outer inner : List SortCriterion) (rows : List α)
    (h : ∀ c ∈ outer ++ inner, E.Unmixed c.field rows) :
    E.sortRows outer (E.sortRows inner rows) = E.sortRows (outer ++ inner) rows := by
  have later := E.compareBy_preorderOn outer rows fun c mem => h c (by simp [mem])
  have earlier := E.compareBy_preorderOn inner rows fun c mem => h c (by simp [mem])
  rw [sortRows, sortRows, later.stableSort_stableSort earlier, sortRows, compareBy_append]

theorem sortRows_extend (keys more older : List SortCriterion) (rows : List α)
    (h : ∀ c ∈ keys ++ more ++ older, E.Unmixed c.field rows) :
    E.sortRows (keys ++ more) (E.sortRows (keys ++ older) rows) =
      E.sortRows (keys ++ more ++ older) rows := by
  have named : ∀ c ∈ keys ++ more ++ (keys ++ older), E.Unmixed c.field rows := by
    intro c mem
    refine h c ?_
    simp only [List.mem_append] at mem ⊢
    tauto
  rw [sortRows_sortRows E _ _ rows named, sortRows, compareBy_again, sortRows]

theorem filter_sortRows (keys : List SortCriterion) (p : α → Bool) (rows : List α)
    (h : ∀ c ∈ keys, E.Unmixed c.field rows) :
    (E.sortRows keys rows).filter p = E.sortRows keys (rows.filter p) :=
  (E.compareBy_preorderOn keys rows h).stableSort_filter p

theorem sortRows_eq_mergeSort (keys : List SortCriterion) (rows : List α)
    (h : ∀ c ∈ keys, E.Unmixed c.field rows) :
    E.sortRows keys rows = rows.mergeSort fun a b => (E.compareBy keys a b).isLE :=
  (E.compareBy_preorderOn keys rows h).stableSort_eq_mergeSort

theorem sortRows_nil (rows : List α) : E.sortRows [] rows = rows := by
  rw [sortRows_eq_mergeSort E [] rows (by simp)]
  exact List.mergeSort_of_pairwise (List.pairwise_of_forall fun _ _ => rfl)

@[simp] theorem mem_groupRows (key : String) (rows : List α) (row : α) :
    row ∈ E.groupRows key rows ↔ row ∈ rows := by
  simp [groupRows]

theorem distinctRows_eq_eraseDupsBy (rows : List α) :
    E.distinctRows rows = rows.eraseDupsBy fun row old =>
      Value.sameList (E.scalarValues old) (E.scalarValues row) := by
  have loop (kept : List α) :
      List.eraseDupsBy.loop
          (fun row old => Value.sameList (E.scalarValues old) (E.scalarValues row)) rows kept =
        kept.reverse ++ E.distinctFrom (kept.reverse.map E.scalarValues) rows := by
    induction rows generalizing kept with
    | nil => simp [List.eraseDupsBy.loop, distinctFrom]
    | cons row rows ih =>
      rw [List.eraseDupsBy.loop, distinctFrom]
      split
      next old =>
        rw [ih, if_pos (by simpa using old)]
      next new =>
        rw [ih, if_neg (by simpa using new)]
        simp
  exact (loop []).symm

theorem distinctFrom_sublist (seen : List (List Value)) (rows : List α) :
    (E.distinctFrom seen rows).Sublist rows := by
  induction rows generalizing seen with
  | nil => simp [distinctFrom]
  | cons row rows ih =>
    rw [distinctFrom]
    split
    · exact (ih seen).cons row
    · exact (ih _).cons_cons row

theorem distinctRows_sublist (rows : List α) : (E.distinctRows rows).Sublist rows :=
  E.distinctFrom_sublist [] rows

theorem perm_sortRows (keys : List SortCriterion) (rows : List α) :
    (E.sortRows keys rows).Perm rows :=
  perm_stableSort (E.compareBy keys) rows

theorem perm_groupRows (key : String) (rows : List α) : (E.groupRows key rows).Perm rows :=
  perm_stableSort _ rows

end Entity

namespace RowOp

theorem run_append (keys : List SortCriterion) (ops : List RowOp) (rows : List α) :
    ∃ keys', ∀ more, run E keys (ops ++ more) rows = run E keys' more (run E keys ops rows) := by
  induction ops generalizing keys rows with
  | nil => exact ⟨keys, fun _ => rfl⟩
  | cons op ops ih => cases op <;> exact ih _ _

theorem run_subperm (keys : List SortCriterion) (ops : List RowOp) (rows : List α) :
    (run E keys ops rows).Subperm rows := by
  induction ops generalizing keys rows with
  | nil => exact .refl rows
  | cons op ops ih =>
    cases op with
    | filter e => exact (ih _ _).trans List.filter_sublist.subperm
    | groupBy key => exact (ih _ _).trans (E.perm_groupRows key rows).subperm
    | distinct => exact (ih _ _).trans (E.distinctRows_sublist rows).subperm
    | orderBy c | thenBy c => exact (ih _ _).trans (E.perm_sortRows _ rows).subperm
    | skip count => exact (ih _ _).trans (List.drop_sublist _ rows).subperm
    | take count => exact (ih _ _).trans (List.take_sublist _ rows).subperm

end RowOp

end EntityQuery
