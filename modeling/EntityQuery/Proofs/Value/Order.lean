import EntityQuery.Proofs.Binary64.Rounding
import EntityQuery.Value.Order

set_option autoImplicit false

namespace EntityQuery

open Std

theorem transCmp_comap {α β : Type} (f : α → β) (cmp : β → β → Ordering) [TransCmp cmp] :
    TransCmp fun a b => cmp (f a) (f b) where
  eq_swap := OrientedCmp.eq_swap
  isLE_trans := TransCmp.isLE_trans

instance : TransCmp Date.compare :=
  inferInstanceAs (TransCmp (compareLex _ _))

instance : TransCmp DateTime.compare :=
  have : TransCmp fun a b : DateTime => Date.compare a.date b.date :=
    transCmp_comap DateTime.date Date.compare
  inferInstanceAs (TransCmp (compareLex _ _))

instance : TransCmp Uuid.compare :=
  transCmp_comap (fun u : Uuid => u.bits.toNat) Ord.compare

instance : TransCmp Binary64.totalCompare :=
  transCmp_comap Binary64.totalKey Ord.compare

namespace Value

def mixes : Value → Value → Bool
  | integer _, float _ => true
  | float _, integer _ => true
  | _, _ => false

inductive Alike : Value → Value → Prop
  | null : Alike null null
  | string (a b : String) : Alike (string a) (string b)
  | integer (a b : Int64) : Alike (integer a) (integer b)
  | float (a b : Binary64) : Alike (float a) (float b)
  | integerFloat (a : Int64) (b : Binary64) : Alike (integer a) (float b)
  | floatInteger (a : Binary64) (b : Int64) : Alike (float a) (integer b)
  | bool (a b : Bool) : Alike (bool a) (bool b)
  | dateTime (a b : DateTime) : Alike (dateTime a) (dateTime b)
  | date (a b : Date) : Alike (date a) (date b)
  | uuid (a b : Uuid) : Alike (uuid a) (uuid b)

theorem alike_of_rank_eq {a b : Value} (h : a.kindRank = b.kindRank) : Alike a b := by
  cases a <;> cases b <;> first | constructor | simp [kindRank] at h

theorem sortCompare_of_rank_ne {a b : Value} (h : a.kindRank ≠ b.kindRank) :
    a.sortCompare b = compare a.kindRank b.kindRank := by
  cases a <;> cases b <;> first | rfl | exact absurd rfl h

theorem sortCompare_swap (a b : Value) : a.sortCompare b = (b.sortCompare a).swap := by
  by_cases h : a.kindRank = b.kindRank
  · cases alike_of_rank_eq h with
    | null => rfl
    | integer a b => exact OrientedOrd.eq_swap
    | float a b | integerFloat a b | floatInteger a b =>
      exact @OrientedCmp.eq_swap _ Binary64.totalCompare _ _ _
    | string a b | bool a b => exact OrientedOrd.eq_swap
    | dateTime a b => exact @OrientedCmp.eq_swap _ DateTime.compare _ _ _
    | date a b => exact @OrientedCmp.eq_swap _ Date.compare _ _ _
    | uuid a b => exact @OrientedCmp.eq_swap _ Uuid.compare _ _ _
  · rw [sortCompare_of_rank_ne h, sortCompare_of_rank_ne (Ne.symm h)]
    exact OrientedOrd.eq_swap

instance : OrientedCmp sortCompare where
  eq_swap := sortCompare_swap _ _

theorem rank_le_of_sortCompare {a b : Value} (h : (a.sortCompare b).isLE) :
    a.kindRank ≤ b.kindRank := by
  by_cases same : a.kindRank = b.kindRank
  · exact Nat.le_of_eq same
  · rw [sortCompare_of_rank_ne same, Nat.isLE_compare] at h
    exact h

inductive Blurs : Value → Value → Value → Prop
  | between (m n : Int64) (x : Binary64) (differ : m ≠ n) (left : Binary64.ofInt m.toInt = x)
      (right : Binary64.ofInt n.toInt = x) : Blurs (integer m) (float x) (integer n)

theorem not_blurs_of_unmixed {a b : Value} (h : a.mixes b = false) (c : Value) :
    ¬Blurs a b c := by
  rintro ⟨⟩
  simp [mixes] at h

theorem sortCompare_trans {a b c : Value} (clear : ¬Blurs a b c)
    (first : (a.sortCompare b).isLE) (second : (b.sortCompare c).isLE) :
    (a.sortCompare c).isLE := by
  have low := rank_le_of_sortCompare first
  have high := rank_le_of_sortCompare second
  by_cases h : a.kindRank = c.kindRank
  · have left := alike_of_rank_eq (show a.kindRank = b.kindRank by omega)
    have right := alike_of_rank_eq (show b.kindRank = c.kindRank by omega)
    cases left with
    | null => cases right; rfl
    | integer =>
      cases right with
      | integer => exact TransOrd.isLE_trans first second
      | integerFloat =>
        have order := Binary64.ofInt_mono (Int.isLE_compare.1 first)
        exact Int.isLE_compare.2 (order.trans (Int.isLE_compare.1 second))
    | integerFloat m x =>
      cases right with
      | float => exact @TransCmp.isLE_trans _ Binary64.totalCompare _ _ _ _ first second
      | floatInteger x n =>
        -- If the second integer were less than the first, both would round to the float.
        have up := Int.isLE_compare.1 first
        have down := Int.isLE_compare.1 second
        by_contra greater
        have below : n.toInt < m.toInt := by
          rw [sortCompare, Int.isLE_compare] at greater
          omega
        have order := Binary64.ofInt_mono below.le
        refine clear (.between m n x ?_ ?_ ?_)
        · rintro rfl
          omega
        · exact Binary64.totalKey_inj (by omega)
        · exact Binary64.totalKey_inj (by omega)
    | floatInteger =>
      cases right with
      | integer =>
        have order := Binary64.ofInt_mono (Int.isLE_compare.1 second)
        exact Int.isLE_compare.2 ((Int.isLE_compare.1 first).trans order)
      | integerFloat => exact @TransCmp.isLE_trans _ Binary64.totalCompare _ _ _ _ first second
    | float =>
      cases right with
      | float | floatInteger =>
        exact @TransCmp.isLE_trans _ Binary64.totalCompare _ _ _ _ first second
    | string | bool => cases right; exact TransOrd.isLE_trans first second
    | dateTime => cases right; exact @TransCmp.isLE_trans _ DateTime.compare _ _ _ _ first second
    | date => cases right; exact @TransCmp.isLE_trans _ Date.compare _ _ _ _ first second
    | uuid => cases right; exact @TransCmp.isLE_trans _ Uuid.compare _ _ _ _ first second
  · rw [sortCompare_of_rank_ne h, Nat.isLE_compare]
    omega

end Value

end EntityQuery
