import EntityQuery.Proofs.Expr.Leaves
import EntityQuery.Proofs.Expr.Normal
import Mathlib.Algebra.Order.BigOperators.Group.List
import Mathlib.Algebra.Order.Group.Nat

set_option autoImplicit false

namespace EntityQuery.Expr

def IsLeaf : Expr → Prop
  | and _ | or _ | not _ => False
  | _ => True

inductive Layer (unit : Bool) (kind : Expr → Prop) : Expr → Prop
  | one {e : Expr} (h : kind e) : Layer unit kind e
  | many {es : List Expr} (h : ∀ e ∈ es, kind e) : Layer unit kind (junction unit es)

def IsClause : Expr → Prop :=
  Layer false IsLeaf

def InClauses : Expr → Prop :=
  Layer true IsClause

variable {unit : Bool} {kind : Expr → Prop} {e : Expr} {es : List Expr}

theorem join_layer (constant : kind (const unit)) (h : ∀ e ∈ es, kind e) :
    Layer unit kind (join unit es) := by
  match es with
  | [] => exact .one constant
  | [e] => exact .one (h e (by simp))
  | e :: f :: es => exact .many h

theorem combine_layer (constant : ∀ b, kind (const b))
    (opened : ∀ e, kind e → ∀ f ∈ operands unit e, kind f) (h : ∀ e ∈ es, Layer unit kind e) :
    Layer unit kind (combine unit es) := by
  by_cases absorbed : const (!unit) ∈ es
  next =>
    rw [combine_of_mem absorbed]
    exact .one (constant _)
  next =>
    rw [combine_of_notMem absorbed]
    refine join_layer (constant unit) fun f mem => ?_
    obtain ⟨e, own, part⟩ := List.mem_flatMap.1 mem
    cases h e own with
    | one single => exact opened e single f part
    | many inside =>
      refine inside f ?_
      cases unit <;> exact part

theorem operands_isLeaf (h : e.IsLeaf) : ∀ f ∈ operands false e, f.IsLeaf := by
  cases e with
  | const b => cases b <;> simp [operands, IsLeaf]
  | and | or | not => cases h
  | _ => simp [operands, IsLeaf]

theorem operands_isClause (h : e.IsClause) : ∀ f ∈ operands true e, f.IsClause := by
  have single : operands true e ⊆ [e] := by
    cases h with
    | one leaf =>
      cases e with
      | const b => cases b <;> simp [operands]
      | and | or | not => cases leaf
      | _ => simp [operands]
    | many => simp [junction, operands]
  intro f mem
  exact List.mem_singleton.1 (single mem) ▸ h

theorem any_isClause (h : ∀ e ∈ es, e.IsLeaf) : (any es).IsClause :=
  show Layer false IsLeaf (combine false es) from
    combine_layer (fun _ => trivial) (fun _ => operands_isLeaf) fun e mem => .one (h e mem)

theorem all_inClauses (h : ∀ e ∈ es, e.InClauses) : (all es).InClauses :=
  show Layer true IsClause (combine true es) from
    combine_layer (fun _ => .one trivial) (fun _ => operands_isClause) h

theorem IsLeaf.normal (h : e.IsLeaf) : e.Normal := by
  cases e with
  | and | or | not => cases h
  | _ => constructor

theorem length_leaves_le_one (h : e.IsLeaf) : e.leaves.length ≤ 1 := by
  cases e with
  | and | or | not => cases h
  | _ => simp [leaves]

theorem length_flatMap_le {α β : Type} {f : α → List β} {n : Nat} {xs : List α}
    (h : ∀ x ∈ xs, (f x).length ≤ n) : (xs.flatMap f).length ≤ xs.length * n := by
  rw [List.length_flatMap]
  have bound := List.sum_le_card_nsmul (xs.map fun x => (f x).length) n (List.forall_mem_map.2 h)
  rwa [List.length_map] at bound

end EntityQuery.Expr
