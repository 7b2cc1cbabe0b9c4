import EntityQuery.Proofs.Binary64.Order
import EntityQuery.Proofs.Value.Order
import EntityQuery.Sample.Record
import EntityQuery.Store.Rows

set_option autoImplicit false

namespace EntityQuery

open Std

namespace Value

variable {a b c : Value}

theorem compare?_of_rank_ne (h : a.kindRank ≠ b.kindRank) : a.compare? b = none := by
  cases a <;> cases b <;> first | rfl | exact absurd rfl h

theorem alike_of_compare? {o : Ordering} (h : a.compare? b = some o) : Alike a b := by
  apply alike_of_rank_eq
  by_contra apart
  rw [compare?_of_rank_ne apart] at h
  cases h

theorem compare?_swap (a b : Value) : b.compare? a = (a.compare? b).map Ordering.swap := by
  by_cases h : a.kindRank = b.kindRank
  next =>
    cases alike_of_rank_eq h with
    | null => rfl
    | string a b | integer a b | bool a b => exact congrArg some OrientedOrd.eq_swap
    | float a b | integerFloat a b | floatInteger a b => exact Binary64.compare?_swap _ _
    | dateTime a b => exact congrArg some (@OrientedCmp.eq_swap _ DateTime.compare _ _ _)
    | date a b => exact congrArg some (@OrientedCmp.eq_swap _ Date.compare _ _ _)
    | uuid a b => exact congrArg some (@OrientedCmp.eq_swap _ Uuid.compare _ _ _)
  next => rw [compare?_of_rank_ne h, compare?_of_rank_ne (Ne.symm h), Option.map_none]

theorem looselyEquals_eq (a b : Value) :
    a.looselyEquals b = (a.isNull && b.isNull || a.compare? b == some .eq) := by
  cases a <;> cases b <;> rfl

theorem looselyEquals_symm (a b : Value) : a.looselyEquals b = b.looselyEquals a := by
  have equal : (b.compare? a == some .eq) = (a.compare? b == some .eq) := by
    rw [compare?_swap a b]
    cases a.compare? b with
    | none => rfl
    | some o => cases o <;> rfl
  rw [looselyEquals_eq, looselyEquals_eq, equal, Bool.and_comm]

theorem compare?_integer {m n : Int64} :
    (integer m).compare? (integer n) = some .lt ↔ m.toInt < n.toInt := by
  rw [compare?, Option.some_inj, Int.compare_eq_lt]

theorem compare?_trans (first : a.compare? b = some .lt) (second : b.compare? c = some .lt) :
    a.compare? c = some .lt := by
  have right := alike_of_compare? second
  have within {α : Type} {cmp : α → α → Ordering} [TransCmp cmp] {x y z : α}
      (less : some (cmp x y) = some .lt) (less' : some (cmp y z) = some .lt) :
      some (cmp x z) = some .lt :=
    congrArg some (TransCmp.lt_trans (Option.some.inj less) (Option.some.inj less'))
  cases alike_of_compare? first with
  | null => cases first
  | string | bool => cases right; exact within first second
  | dateTime => cases right; exact @within _ DateTime.compare _ _ _ _ first second
  | date => cases right; exact @within _ Date.compare _ _ _ _ first second
  | uuid => cases right; exact @within _ Uuid.compare _ _ _ _ first second
  | integer m n =>
    have below := compare?_integer.1 first
    cases right with
    | integer n k => exact compare?_integer.2 (below.trans (compare?_integer.1 second))
    | integerFloat => exact Binary64.compare?_of_le_left below.le second
  | float => cases right <;> exact Binary64.compare?_trans first second
  | integerFloat m x =>
    cases right with
    | float => exact Binary64.compare?_trans first second
    | floatInteger x n =>
      -- The integers themselves are in the order of the floats they are nearest to.
      have floats := Binary64.compare?_trans first second
      exact compare?_integer.2 (Binary64.lt_of_compare?_ofInt floats)
  | floatInteger x m =>
    cases right with
    | integer m n => exact Binary64.compare?_of_le_right (compare?_integer.1 second).le first
    | integerFloat => exact Binary64.compare?_trans first second

theorem sortCompare_of_compare? (h : a.compare? b = some .lt) : a.sortCompare b = .lt := by
  cases alike_of_compare? h with
  | null => cases h
  | integer => exact Option.some.inj h
  | float | integerFloat | floatInteger => exact Binary64.totalCompare_of_compare? h
  | string | bool | dateTime | date | uuid =>
    rw [sortCompare.eq_def]
    exact congrArg (Option.getD · _) h

theorem lt_holds_iff : CompareOp.lt.holds a b = true ↔ a.compare? b = some .lt := by
  rw [CompareOp.holds]
  cases a.compare? b with
  | none => simp
  | some o => cases o <;> simp

theorem gt_holds_iff : CompareOp.gt.holds a b = true ↔ b.compare? a = some .lt := by
  rw [CompareOp.holds, compare?_swap a b]
  cases a.compare? b with
  | none => simp
  | some o => cases o <;> simp

theorem compare?_ne_lt (a : Value) : a.compare? a ≠ some .lt := by
  intro less
  have turned := compare?_swap a a
  rw [less] at turned
  cases turned

end Value

namespace Entity

variable {ι α : Type} (E : Entity ι α) {field : String} {r s : α}

theorem compareBy_of_below (keys : List SortCriterion)
    (h : (E.value r field).compare? (E.value s field) = some .lt) :
    E.compareBy (⟨field, .ascending⟩ :: keys) r s = .lt := by
  rw [compareBy, SortDirection.apply, Value.sortCompare_of_compare? h, Ordering.lt_then]

theorem compareBy_of_above (keys : List SortCriterion)
    (h : (E.value s field).compare? (E.value r field) = some .lt) :
    E.compareBy (⟨field, .ascending⟩ :: keys) r s = .gt := by
  rw [compareBy, SortDirection.apply, Value.sortCompare_swap, Value.sortCompare_of_compare? h]
  rfl

/--
Values are in a strict partial order, equality goes both ways, and sorting keeps the order: a row
that a range filter finds below another, or above it, is sorted so.
-/
theorem filters_agree_with_sorting (field : String) (keys : List SortCriterion) :
    (∀ a b : Value, b.compare? a = (a.compare? b).map Ordering.swap) ∧
      (∀ a : Value, a.compare? a ≠ some .lt) ∧
      (∀ a b c : Value, a.compare? b = some .lt → b.compare? c = some .lt →
        a.compare? c = some .lt) ∧
      (∀ a b : Value, a.looselyEquals b = b.looselyEquals a) ∧
      (∀ a b : Value, a.compare? b = some .lt → a.sortCompare b = .lt) ∧
      ∀ r s : α,
        (E.satisfies (.compare field .lt (E.value s field)) r →
          E.compareBy (⟨field, .ascending⟩ :: keys) r s = .lt) ∧
        (E.satisfies (.compare field .gt (E.value s field)) r →
          E.compareBy (⟨field, .ascending⟩ :: keys) r s = .gt) := by
  refine ⟨Value.compare?_swap, Value.compare?_ne_lt, fun a b c => Value.compare?_trans,
    Value.looselyEquals_symm, fun a b => Value.sortCompare_of_compare?, fun r s => ⟨?_, ?_⟩⟩
  · intro below
    exact E.compareBy_of_below keys (Value.lt_holds_iff.1 below)
  · intro above
    exact E.compareBy_of_above keys (Value.gt_holds_iff.1 above)

section

open Sample

def scored (v : Value) : Node :=
  ⟨[("Score", v)]⟩

-- The float is `2 ^ 53 + 2`, and the second integer, one more, is nearest to `2 ^ 53 + 4`.
theorem neighbours_agree :
    let low := Value.integer 9007199254740992
    let middle := Value.float ⟨0x4340000000000001⟩
    let high := Value.integer 9007199254740995
    low.compare? middle = some .lt ∧ middle.compare? high = some .lt ∧
      low.compare? high = some .lt ∧ middle.sortCompare high = .lt ∧
      nodes.satisfies (.compare "Score" .lt high) (scored middle) ∧
      nodes.compareBy [⟨"Score", .ascending⟩] (scored middle) (scored high) = .lt ∧
      nodes.satisfies (.compare "Score" .gt low) (scored middle) ∧
      nodes.compareBy [⟨"Score", .ascending⟩] (scored middle) (scored low) = .gt := by
  intro low middle high
  have first : low.compare? middle = some .lt := by decide +kernel
  have second : middle.compare? high = some .lt := by decide +kernel
  have below : nodes.satisfies (.compare "Score" .lt high) (scored middle) := by decide +kernel
  have above : nodes.satisfies (.compare "Score" .gt low) (scored middle) := by decide +kernel
  obtain ⟨-, -, trans, -, sorted, rows⟩ := filters_agree_with_sorting nodes "Score" []
  exact ⟨first, second, trans _ _ _ first second, sorted _ _ second, below, (rows _ _).1 below,
    above, (rows _ _).2 above⟩

end

end Entity

end EntityQuery
