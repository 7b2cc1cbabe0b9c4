import EntityQuery.Expr.Basic

set_option autoImplicit false

namespace EntityQuery.Expr

-- Conjunction and disjunction are treated as one; `unit` is the constant that changes neither.
def junction (unit : Bool) (es : List Expr) : Expr :=
  if unit then and es else or es

def combine (unit : Bool) (es : List Expr) : Expr :=
  if unit then all es else any es

/-- The operands that an expression comes to when it is combined with others. -/
def operands (unit : Bool) : Expr → List Expr
  | const b => if b = unit then [] else [const b]
  | and es => if unit then es else [and es]
  | or es => if unit then [or es] else es
  | e => [e]

def join (unit : Bool) : List Expr → Expr
  | [] => const unit
  | [e] => e
  | es => junction unit es

def collect? (unit : Bool) (es : List Expr) : Option (List Expr) :=
  if unit then conjuncts? es else disjuncts? es

variable {unit : Bool} {e : Expr} {es : List Expr}

theorem collect?_absorbing (es : List Expr) : collect? unit (const (!unit) :: es) = none := by
  cases unit <;> rfl

theorem collect?_cons (varies : e ≠ const (!unit)) (es : List Expr) :
    collect? unit (e :: es) = (collect? unit es).map (operands unit e ++ ·) := by
  cases unit <;> cases e <;> simp_all [collect?, conjuncts?, disjuncts?, operands]

theorem collect?_of_mem (h : const (!unit) ∈ es) : collect? unit es = none := by
  induction es with
  | nil => cases h
  | cons e es ih =>
    by_cases absorbing : e = const (!unit)
    next =>
      subst absorbing
      exact collect?_absorbing es
    next =>
      have later := (List.mem_cons.1 h).resolve_left (Ne.symm absorbing)
      rw [collect?_cons absorbing, ih later, Option.map_none]

theorem collect?_of_notMem (h : const (!unit) ∉ es) :
    collect? unit es = some (es.flatMap (operands unit)) := by
  induction es with
  | nil => cases unit <;> rfl
  | cons e es ih =>
    obtain ⟨first, rest⟩ := not_or.1 (mt List.mem_cons.2 h)
    rw [collect?_cons (Ne.symm first), ih rest]
    rfl

theorem combine_eq (unit : Bool) (es : List Expr) :
    combine unit es = ((collect? unit es).map (join unit)).getD (const !unit) := by
  cases unit
  all_goals
    simp only [combine, collect?, all, any, if_true, Bool.false_eq_true, if_false]
    split
    next none => rw [none]; rfl
    next some => rw [some]; rfl
    next some => rw [some]; rfl
    next operands many several some =>
      rw [some]
      cases operands with
      | nil => exact absurd rfl many
      | cons e es =>
        cases es with
        | nil => exact absurd rfl (several e)
        | cons f es => rfl

theorem combine_of_mem (h : const (!unit) ∈ es) : combine unit es = const !unit := by
  rw [combine_eq, collect?_of_mem h]
  rfl

theorem combine_of_notMem (h : const (!unit) ∉ es) :
    combine unit es = join unit (es.flatMap (operands unit)) := by
  rw [combine_eq, collect?_of_notMem h]
  rfl

theorem combine_of_units (h : ∀ e ∈ es, e = const unit) : combine unit es = const unit := by
  have varies : const (!unit) ∉ es := fun mem => by simpa using h _ mem
  have nothing : es.flatMap (operands unit) = [] := by
    rw [List.flatMap_eq_nil_iff]
    intro e mem
    rw [h e mem, operands, if_pos rfl]
  rw [combine_of_notMem varies, nothing, join]

theorem all_of_true (h : ∀ e ∈ es, e = const true) : all es = const true :=
  combine_of_units h

end EntityQuery.Expr
