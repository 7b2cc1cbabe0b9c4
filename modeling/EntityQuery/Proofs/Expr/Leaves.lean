import EntityQuery.Proofs.Expr.Folding

set_option autoImplicit false

namespace EntityQuery.Expr

mutual

def leaves : Expr → List Expr
  | const _ => []
  | and es => leavesOfAll es
  | or es => leavesOfAll es
  | not e => e.leaves
  | e => [e]

def leavesOfAll : List Expr → List Expr
  | [] => []
  | e :: es => e.leaves ++ leavesOfAll es

end

theorem leavesOfAll_eq_flatMap (es : List Expr) : leavesOfAll es = es.flatMap leaves := by
  induction es with
  | nil => simp [leavesOfAll]
  | cons e es ih => simp [leavesOfAll, ih]

@[simp] theorem leaves_const (b : Bool) : (const b).leaves = [] := by
  simp only [leaves]

@[simp] theorem leaves_and (es : List Expr) : (and es).leaves = es.flatMap leaves := by
  simp only [leaves, leavesOfAll_eq_flatMap]

@[simp] theorem leaves_or (es : List Expr) : (or es).leaves = es.flatMap leaves := by
  simp only [leaves, leavesOfAll_eq_flatMap]

theorem leaves_join (unit : Bool) (es : List Expr) :
    (join unit es).leaves = es.flatMap leaves := by
  match es with
  | [] => simp [join]
  | [e] => simp [join]
  | e :: f :: es => cases unit <;> simp [join, junction]

theorem leaves_operands (unit : Bool) (e : Expr) :
    (operands unit e).flatMap leaves = e.leaves := by
  cases e with
  | const b => by_cases same : b = unit <;> simp [operands, same]
  | and es | or es => cases unit <;> simp [operands]
  | _ => simp [operands]

theorem leaves_combine_sublist (unit : Bool) (es : List Expr) :
    (combine unit es).leaves.Sublist (es.flatMap leaves) := by
  by_cases absorbed : const (!unit) ∈ es
  next =>
    rw [combine_of_mem absorbed, leaves_const]
    exact List.nil_sublist _
  next =>
    rw [combine_of_notMem absorbed, leaves_join, List.flatMap_assoc]
    simp only [leaves_operands, List.Sublist.refl]

theorem leaves_combine_subset (unit : Bool) (es : List Expr) :
    (combine unit es).leaves ⊆ es.flatMap leaves :=
  (leaves_combine_sublist unit es).subset

theorem leaves_all_subset (es : List Expr) : (all es).leaves ⊆ es.flatMap leaves :=
  leaves_combine_subset true es

theorem leaves_any_subset (es : List Expr) : (any es).leaves ⊆ es.flatMap leaves :=
  leaves_combine_subset false es

variable {asked : Prop} [Decidable asked] {e leaf : Expr} {b : Bool}

theorem mem_leaves_of_then (h : leaf ∈ (if asked then e else const b).leaves) :
    asked ∧ leaf ∈ e.leaves := by
  split at h
  next yes => exact ⟨yes, h⟩
  next => simp at h

theorem mem_leaves_of_else (h : leaf ∈ (if asked then const b else e).leaves) :
    ¬asked ∧ leaf ∈ e.leaves := by
  split at h
  next => simp at h
  next no => exact ⟨no, h⟩

end EntityQuery.Expr
