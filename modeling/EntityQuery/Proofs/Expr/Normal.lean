import EntityQuery.Proofs.Expr.Combining

set_option autoImplicit false

namespace EntityQuery.Expr

def Operand (unit : Bool) (e : Expr) : Prop :=
  (∀ b, e ≠ const b) ∧ ∀ es, e ≠ junction unit es

inductive Normal : Expr → Prop
  | const (b : Bool) : Normal (const b)
  | compare (f : String) (op : CompareOp) (v : Value) : Normal (compare f op v)
  | text (f : String) (op : TextOp) (v : String) : Normal (text f op v)
  | null (f : String) (negated : Bool) : Normal (null f negated)
  | empty (f : String) (negated : Bool) : Normal (empty f negated)
  | oneOf (f : String) (vs : List Value) (negated : Bool) : Normal (oneOf f vs negated)
  | and {es : List Expr} (two : 2 ≤ es.length) (apart : ∀ e ∈ es, Operand true e)
    (inside : ∀ e ∈ es, Normal e) : Normal (and es)
  | or {es : List Expr} (two : 2 ≤ es.length) (apart : ∀ e ∈ es, Operand false e)
    (inside : ∀ e ∈ es, Normal e) : Normal (or es)
  | not {e : Expr} (varies : ∀ b, e ≠ const b) (plain : ∀ f, e ≠ not f) (inside : Normal e) :
    Normal (not e)

variable {unit : Bool} {e f g : Expr} {es ys : List Expr}

theorem operands_of_operand (h : Operand unit e) : operands unit e = [e] := by
  obtain ⟨varies, apart⟩ := h
  cases unit <;> cases e <;> simp_all [operands, junction]

theorem operands_join (h : ∀ e ∈ es, Operand unit e) : operands unit (join unit es) = es := by
  match es with
  | [] => simp [join, operands]
  | [e] => exact operands_of_operand (h e (by simp))
  | e :: f :: es => cases unit <;> rfl

theorem join_ne_const (h : ∀ e ∈ es, Operand unit e) : join unit es ≠ const !unit := by
  match es with
  | [] => simp [join]
  | [e] => exact (h e (by simp)).1 _
  | e :: f :: es => cases unit <;> simp [join, junction]

theorem normal_junction (two : 2 ≤ es.length) (apart : ∀ e ∈ es, Operand unit e)
    (inside : ∀ e ∈ es, e.Normal) : (junction unit es).Normal := by
  cases unit with
  | true => exact .and two apart inside
  | false => exact .or two apart inside

theorem join_normal (apart : ∀ e ∈ es, Operand unit e) (inside : ∀ e ∈ es, e.Normal) :
    (join unit es).Normal := by
  match es with
  | [] => exact .const unit
  | [e] => exact inside e (by simp)
  | e :: f :: es => exact normal_junction (by simp) apart inside

theorem operands_normal (h : e.Normal) (varies : e ≠ const !unit) :
    ∀ f ∈ operands unit e, Operand unit f ∧ f.Normal := by
  have single {f : Expr} (apart : Operand unit f) (inside : f.Normal) :
      ∀ g ∈ [f], Operand unit g ∧ g.Normal :=
    List.forall_mem_singleton.2 ⟨apart, inside⟩
  cases h with
  | const b =>
    have same : b = unit := by
      cases b <;> cases unit <;> simp_all
    simp [operands, same]
  | and two apart inside =>
    cases unit with
    | true => exact fun f mem => ⟨apart f mem, inside f mem⟩
    | false => exact single ⟨by simp, by simp [junction]⟩ (.and two apart inside)
  | or two apart inside =>
    cases unit with
    | true => exact single ⟨by simp, by simp [junction]⟩ (.or two apart inside)
    | false => exact fun f mem => ⟨apart f mem, inside f mem⟩
  | not inner plain inside =>
    exact single ⟨by simp, by cases unit <;> simp [junction]⟩ (.not inner plain inside)
  | _ => exact single ⟨by simp, by cases unit <;> simp [junction]⟩ (by constructor)

theorem join_of_two (two : 2 ≤ es.length) : join unit es = junction unit es := by
  match es with
  | e :: f :: es => rfl

theorem join_operands (h : e.Normal) (varies : e ≠ const !unit) :
    join unit (operands unit e) = e := by
  cases h with
  | const b =>
    have same : b = unit := by
      cases b <;> cases unit <;> simp_all
    simp [operands, same, join]
  | and two =>
    cases unit with
    | true => exact join_of_two two
    | false => rfl
  | or two =>
    cases unit with
    | true => rfl
    | false => exact join_of_two two
  | _ => rfl

theorem operands_flatMap_normal (inside : ∀ e ∈ es, e.Normal) (h : const (!unit) ∉ es) :
    ∀ f ∈ es.flatMap (operands unit), Operand unit f ∧ f.Normal := by
  intro f mem
  obtain ⟨e, own, part⟩ := List.mem_flatMap.1 mem
  exact operands_normal (inside e own) (fun absorbing => h (absorbing ▸ own)) f part

theorem combine_normal (h : ∀ e ∈ es, e.Normal) : (combine unit es).Normal := by
  by_cases absorbed : const (!unit) ∈ es
  next =>
    rw [combine_of_mem absorbed]
    exact .const _
  next =>
    rw [combine_of_notMem absorbed]
    have ready := operands_flatMap_normal h absorbed
    exact join_normal (fun f mem => (ready f mem).1) fun f mem => (ready f mem).2

theorem combine_nested (unit : Bool) (xs zs : List Expr) (h : ∀ e ∈ ys, e.Normal) :
    combine unit (xs ++ [combine unit ys] ++ zs) = combine unit (xs ++ ys ++ zs) := by
  by_cases absorbed : const (!unit) ∈ ys
  next => rw [combine_of_mem absorbed, combine_of_mem (by simp), combine_of_mem (by simp [absorbed])]
  next =>
    have apart : ∀ f ∈ ys.flatMap (operands unit), Operand unit f :=
      fun f mem => (operands_flatMap_normal h absorbed f mem).1
    have varies := join_ne_const apart
    rw [combine_of_notMem absorbed]
    by_cases outside : const (!unit) ∈ xs ++ zs
    next =>
      rw [combine_of_mem, combine_of_mem]
      all_goals
        rcases List.mem_append.1 outside with before | after
        · simp [before]
        · simp [after]
    next =>
      obtain ⟨before, after⟩ := not_or.1 (mt List.mem_append.2 outside)
      rw [combine_of_notMem, combine_of_notMem]
      · simp only [List.flatMap_append, List.flatMap_singleton, operands_join apart]
      · simp [before, absorbed, after]
      · simp [before, Ne.symm varies, after]

-- A constant that was left inside shows once it is an operand.
example :
    all [all [and [const false]], null "Tag" false] = const false ∧
      all [and [const false], null "Tag" false] = and [const false, null "Tag" false] :=
  ⟨rfl, rfl⟩

theorem combine_nil (unit : Bool) : combine unit [] = const unit := by
  cases unit <;> rfl

theorem combine_singleton (h : e.Normal) : combine unit [e] = e := by
  by_cases absorbing : e = const !unit
  next =>
    subst absorbing
    exact combine_of_mem (by simp)
  next =>
    rw [combine_of_notMem (by simpa using Ne.symm absorbing), List.flatMap_singleton,
      join_operands h absorbing]

theorem combine_pair_assoc (he : e.Normal) (hf : f.Normal) (hg : g.Normal) :
    combine unit [combine unit [e, f], g] = combine unit [e, combine unit [f, g]] := by
  have left : combine unit [combine unit [e, f], g] = combine unit [e, f, g] :=
    combine_nested unit [] [g] (by simp [he, hf])
  have right : combine unit [e, combine unit [f, g]] = combine unit [e, f, g] :=
    combine_nested unit [e] [] (by simp [hf, hg])
  rw [left, right]

theorem unit_combine (h : e.Normal) : combine unit [const unit, e] = e := by
  have dropped : combine unit [combine unit [], e] = combine unit [e] :=
    combine_nested unit [] [e] (List.forall_mem_nil _)
  rw [← combine_nil, dropped, combine_singleton h]

theorem combine_unit (h : e.Normal) : combine unit [e, const unit] = e := by
  have dropped : combine unit [e, combine unit []] = combine unit [e] :=
    combine_nested unit [e] [] (List.forall_mem_nil _)
  rw [← combine_nil, dropped, combine_singleton h]

theorem foldl_combine (unit : Bool) (he : e.Normal) (hes : ∀ f ∈ es, f.Normal) :
    es.foldl (fun e f => combine unit [e, f]) e = combine unit (e :: es) := by
  induction es generalizing e with
  | nil => exact (combine_singleton he).symm
  | cons f es ih =>
    obtain ⟨hf, later⟩ := List.forall_mem_cons.1 hes
    have pair : ∀ g ∈ [e, f], g.Normal := by simp [he, hf]
    rw [List.foldl_cons, ih (combine_normal pair) later]
    exact combine_nested unit [] es pair

theorem all_normal (h : ∀ e ∈ es, e.Normal) : (all es).Normal :=
  show (combine true es).Normal from combine_normal h

theorem any_normal (h : ∀ e ∈ es, e.Normal) : (any es).Normal :=
  show (combine false es).Normal from combine_normal h

theorem memberOf_normal (f : String) (vs : List Value) (negated : Bool) :
    (memberOf f vs negated).Normal := by
  rw [memberOf]
  split
  next => exact .const negated
  next => exact .oneOf f vs negated

theorem negate_normal (h : e.Normal) : e.negate.Normal := by
  cases h with
  | const b => exact .const _
  | not varies plain inside => exact inside
  | and two apart inside => exact .not (by simp) (by simp) (.and two apart inside)
  | or two apart inside => exact .not (by simp) (by simp) (.or two apart inside)
  | _ => exact .not (by simp) (by simp) (by constructor)

theorem negate_negate (h : e.Normal) : e.negate.negate = e := by
  cases h with
  | const b => exact congrArg Expr.const (Bool.not_not b)
  | @not inner varies plain inside =>
    -- What stands under a negation is negated by wrapping it again.
    cases inner with
    | const b => exact absurd rfl (varies b)
    | not f => exact absurd rfl (plain f)
    | _ => rfl
  | _ => rfl

structure MonoidOnNormal (op : Expr → Expr → Expr) (one zero : Expr) : Prop where
  one_normal : one.Normal
  zero_normal : zero.Normal
  op_normal : ∀ {e f}, e.Normal → f.Normal → (op e f).Normal
  assoc : ∀ {e f g}, e.Normal → f.Normal → g.Normal → op (op e f) g = op e (op f g)
  one_op : ∀ {e}, e.Normal → op one e = e
  op_one : ∀ {e}, e.Normal → op e one = e
  zero_op : ∀ {e}, e.Normal → op zero e = zero
  op_zero : ∀ {e}, e.Normal → op e zero = zero

theorem monoid_combine (unit : Bool) :
    MonoidOnNormal (fun e f => combine unit [e, f]) (const unit) (const !unit) where
  one_normal := .const _
  zero_normal := .const _
  op_normal he hf := combine_normal (by simp [he, hf])
  assoc := combine_pair_assoc
  one_op := unit_combine
  op_one := combine_unit
  zero_op _ := combine_of_mem (by simp)
  op_zero _ := combine_of_mem (by simp)

end EntityQuery.Expr
