import EntityQuery.Proofs.StableSort
import EntityQuery.Proofs.Value.Order

set_option autoImplicit false

namespace EntityQuery.Value

open Std

def Unambiguous (vs : List Value) : Prop :=
  ∀ m n x, integer m ∈ vs → integer n ∈ vs → float x ∈ vs →
    Binary64.ofInt m.toInt = x → Binary64.ofInt n.toInt = x → m = n

variable {vs : List Value}

theorem Unambiguous.preorderOn (h : Unambiguous vs) : PreorderOn sortCompare vs where
  eq_swap := sortCompare_swap _ _
  isLE_trans {a b c} := by
    refine sortCompare_trans (a := a.1) (b := b.1) (c := c.1) ?_
    obtain ⟨a, ha⟩ := a
    obtain ⟨b, hb⟩ := b
    obtain ⟨c, hc⟩ := c
    rintro ⟨m, n, x, differ, left, right⟩
    exact differ (h m n x ha hc hb left right)

theorem unambiguous_of_exact (h : ∀ n, integer n ∈ vs → n.toInt.natAbs ≤ 2 ^ 53) :
    Unambiguous vs := by
  intro m n x hm hn _ left right
  exact Int64.toInt_inj.1 (Binary64.ofInt_inj (h m hm) (h n hn) (left.trans right.symm))

section

variable {m n : Int64} {x : Binary64} (near : Binary64.ofInt m.toInt = x)
include near

theorem sortCompare_integer_float : (integer m).sortCompare (float x) = .eq := by
  rw [← near]
  exact @ReflCmp.compare_self _ Binary64.totalCompare _ _

theorem sortCompare_float_integer : (float x).sortCompare (integer m) = .eq := by
  rw [sortCompare_swap, sortCompare_integer_float near]
  rfl

theorem stableSort_around (other : Binary64.ofInt n.toInt = x) :
    stableSort sortCompare [integer n, float x, integer m] =
      [integer n, float x, integer m] := by
  simp [stableSort, insertDescending, sortCompare_integer_float near,
    sortCompare_float_integer other]

end

theorem sortCompare_integer_eq {m n : Int64} (h : (integer m).sortCompare (integer n) = .eq) :
    m = n :=
  Int64.toInt_inj.1 (LawfulEqOrd.compare_eq_iff_eq.1 h)

theorem sortCompare_preorder_iff (vs : List Value) :
    (∀ a b : Value, a.sortCompare b = (b.sortCompare a).swap) ∧
    (∀ a : Value, a.sortCompare a = .eq) ∧
    ((∀ n, integer n ∈ vs → n.toInt.natAbs ≤ 2 ^ 53) → Unambiguous vs) ∧
    (Unambiguous vs ↔ ∀ a ∈ vs, ∀ b ∈ vs, ∀ c ∈ vs,
      (a.sortCompare b).isLE → (b.sortCompare c).isLE → (a.sortCompare c).isLE) ∧
    (Unambiguous vs ↔ ∀ a ∈ vs, ∀ b ∈ vs, a.sortCompare b = .eq →
      ∀ c ∈ vs, a.sortCompare c = b.sortCompare c) ∧
    (Unambiguous vs ↔ ∀ us ⊆ vs,
      (stableSort sortCompare us).Pairwise fun a b => (a.sortCompare b).isLE) := by
  refine ⟨sortCompare_swap, fun a => ReflCmp.compare_self, unambiguous_of_exact, ⟨?_, ?_⟩, ⟨?_, ?_⟩,
    ⟨?_, ?_⟩⟩
  · intro clear a ha b hb c hc
    exact clear.preorderOn.isLE_trans (a := ⟨a, ha⟩) (b := ⟨b, hb⟩) (c := ⟨c, hc⟩)
  · intro trans m n x hm hn hx left right
    have up := trans _ hm _ hx _ hn (by simp [sortCompare_integer_float left])
      (by simp [sortCompare_float_integer right])
    have down := trans _ hn _ hx _ hm (by simp [sortCompare_integer_float right])
      (by simp [sortCompare_float_integer left])
    exact sortCompare_integer_eq (OrientedCmp.isLE_antisymm up down)
  · intro clear a ha b hb tie c hc
    have : TransCmp fun a b : { x // x ∈ vs } => sortCompare a.1 b.1 := clear.preorderOn
    exact @TransCmp.congr_left _ (fun a b : { x // x ∈ vs } => sortCompare a.1 b.1) _
      ⟨a, ha⟩ ⟨b, hb⟩ ⟨c, hc⟩ tie
  · intro congr m n x hm hn hx left right
    have alike := congr _ hm _ hx (sortCompare_integer_float left) _ hn
    exact sortCompare_integer_eq (alike.trans (sortCompare_float_integer right))
  · intro clear us sub
    exact (clear.preorderOn.subset sub).stableSort_sorted
  · intro sorted m n x hm hn hx left right
    -- Sorted either way round, each integer comes to stand before the other.
    have order {m n : Int64} (hm : integer m ∈ vs) (hn : integer n ∈ vs)
        (left : Binary64.ofInt m.toInt = x) (right : Binary64.ofInt n.toInt = x) :
        ((integer n).sortCompare (integer m)).isLE := by
      have outcome := sorted [integer n, float x, integer m] (by simp [hm, hn, hx])
      rw [stableSort_around left right] at outcome
      exact (List.pairwise_cons.1 outcome).1 _ (by simp)
    exact sortCompare_integer_eq
      (OrientedCmp.isLE_antisymm (order hn hm right left) (order hm hn left right))

theorem sortCompare_not_preorder :
    let a := integer 9007199254740993
    let b := float ⟨0x4340000000000000⟩
    let c := integer 9007199254740992
    a.sortCompare b = .eq ∧ (b.sortCompare c).isLE ∧ ¬(a.sortCompare c).isLE ∧
      a.sortCompare c ≠ b.sortCompare c ∧
      ¬(stableSort sortCompare [a, b, c]).Pairwise fun a b => (a.sortCompare b).isLE := by
  decide +kernel

end EntityQuery.Value
