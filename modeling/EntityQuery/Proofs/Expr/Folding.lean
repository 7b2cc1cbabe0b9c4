import EntityQuery.Expr.Evaluate
import EntityQuery.Proofs.Expr.Combining

set_option autoImplicit false

namespace EntityQuery.Expr

variable (get : String → Value)

@[simp] theorem evaluate_const (b : Bool) : (const b).evaluate get = b := by
  simp only [evaluate]

theorem evaluateAll_eq_all (es : List Expr) :
    evaluateAll get es = es.all fun e => e.evaluate get := by
  induction es with
  | nil => simp [evaluateAll]
  | cons e es ih => simp [evaluateAll, ih]

theorem evaluateAny_eq_any (es : List Expr) :
    evaluateAny get es = es.any fun e => e.evaluate get := by
  induction es with
  | nil => simp [evaluateAny]
  | cons e es ih => simp [evaluateAny, ih]

@[simp] theorem evaluate_and (es : List Expr) :
    (and es).evaluate get = es.all fun e => e.evaluate get := by
  simp only [evaluate, evaluateAll_eq_all]

@[simp] theorem evaluate_or (es : List Expr) :
    (or es).evaluate get = es.any fun e => e.evaluate get := by
  simp only [evaluate, evaluateAny_eq_any]

@[simp] theorem evaluate_not (e : Expr) : (not e).evaluate get = !e.evaluate get := by
  simp only [evaluate]

@[simp] theorem evaluate_memberOf (f : String) (vs : List Value) (negated : Bool) :
    (memberOf f vs negated).evaluate get =
      (vs.any (fun v => (get f).looselyEquals v) != negated) := by
  cases vs with
  | nil => simp [memberOf]
  | cons v vs => simp only [memberOf, List.isEmpty_cons, Bool.false_eq_true, if_false, evaluate]

theorem isTrue_iff (e : Expr) : e.isTrue = true ↔ e = const true := by
  cases e with
  | const b => cases b <;> simp [isTrue]
  | _ => simp [isTrue]

theorem not_isTrue_iff (e : Expr) : (!e.isTrue) = true ↔ e ≠ const true := by
  rw [Bool.not_eq_true', ← Bool.not_eq_true, e.isTrue_iff]

section

variable {unit : Bool}

theorem evaluate_junction (es : List Expr) :
    (junction unit es).evaluate get = unit ↔ ∀ e ∈ es, e.evaluate get = unit := by
  cases unit with
  | true => simp [junction]
  | false => simp [junction]

theorem evaluate_join (es : List Expr) :
    (join unit es).evaluate get = unit ↔ ∀ e ∈ es, e.evaluate get = unit := by
  match es with
  | [] => simp [join]
  | [e] => simp [join]
  | e :: f :: es => exact evaluate_junction get (e :: f :: es)

theorem evaluate_operands (e : Expr) :
    (∀ f ∈ operands unit e, f.evaluate get = unit) ↔ e.evaluate get = unit := by
  cases e with
  | const b => by_cases same : b = unit <;> simp [operands, same]
  | and es | or es => cases unit <;> simp [operands]
  | _ => simp [operands]

theorem evaluate_combine (unit : Bool) (es : List Expr) :
    (combine unit es).evaluate get = unit ↔ ∀ e ∈ es, e.evaluate get = unit := by
  by_cases absorbed : const (!unit) ∈ es
  next =>
    rw [combine_of_mem absorbed, evaluate_const]
    refine iff_of_false (by simp) fun h => ?_
    have other := h _ absorbed
    simp at other
  next =>
    rw [combine_of_notMem absorbed, evaluate_join, List.forall_mem_flatMap]
    exact forall₂_congr fun e _ => evaluate_operands get e

end

@[simp] theorem evaluate_all (es : List Expr) :
    (all es).evaluate get = es.all fun e => e.evaluate get := by
  rw [Bool.eq_iff_iff, List.all_eq_true]
  exact evaluate_combine get true es

@[simp] theorem evaluate_any (es : List Expr) :
    (any es).evaluate get = es.any fun e => e.evaluate get := by
  rw [← Bool.not_inj_iff, Bool.eq_iff_iff, Bool.not_eq_true', Bool.not_eq_true', List.any_eq_false]
  simp only [Bool.not_eq_true]
  exact evaluate_combine get false es

@[simp] theorem evaluate_both (e f : Expr) :
    (both e f).evaluate get = (e.evaluate get && f.evaluate get) := by
  simp [both]

@[simp] theorem evaluate_either (e f : Expr) :
    (either e f).evaluate get = (e.evaluate get || f.evaluate get) := by
  simp [either]

@[simp] theorem evaluate_negate (e : Expr) : (negate e).evaluate get = !e.evaluate get := by
  cases e <;> simp [negate]

theorem evaluate_foldl_both (es : List Expr) (e : Expr) :
    (es.foldl both e).evaluate get = (e.evaluate get && es.all fun e => e.evaluate get) := by
  induction es generalizing e with
  | nil => simp
  | cons f es ih => rw [List.foldl_cons, ih, evaluate_both, List.all_cons, Bool.and_assoc]

end EntityQuery.Expr
