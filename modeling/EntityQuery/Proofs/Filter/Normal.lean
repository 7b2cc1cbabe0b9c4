import EntityQuery.Proofs.Filter.Clauses
import EntityQuery.Specification.Basic

set_option autoImplicit false

namespace EntityQuery

variable {ι : Type}

theorem FilterCompiler.compileSearch_normal (c : FilterCompiler ι) (term : String) :
    (c.compileSearch term).Normal :=
  c.compileSearch_of Expr.normal_combine term

theorem FilterCompiler.compile_normal (c : FilterCompiler ι) {model : FilterModel} {e : Expr}
    (compiled : c.compile model = .ok e) : e.Normal :=
  c.compile_of Expr.normal_combine compiled

theorem Specification.toExpr_eq_all {ρ α : Type} [ResultTypes ρ] (spec : Specification ρ α)
    (core : spec.criteria.Normal) (more : ∀ e ∈ spec.additionalCriteria, e.Normal) :
    spec.toExpr = Expr.all (spec.criteria :: spec.additionalCriteria) :=
  Expr.foldl_combine true core more

/--
What is made of normal parts is normal, and so is whatever filter models compile to. On normal
expressions no constructor shows how its operands were nested.
-/
theorem normal_forms :
    (∀ es : List Expr, (∀ e ∈ es, e.Normal) → (Expr.all es).Normal ∧ (Expr.any es).Normal) ∧
      (∀ e : Expr, e.Normal → e.negate.Normal ∧ e.negate.negate = e) ∧
      (∀ field values negated, (Expr.memberOf field values negated).Normal) ∧
      (∀ {ι : Type} (c : FilterCompiler ι) (model : FilterModel) (e : Expr),
        c.compile model = .ok e → e.Normal) ∧
      (∀ xs ys zs : List Expr, (∀ e ∈ ys, e.Normal) →
        Expr.all (xs ++ [Expr.all ys] ++ zs) = Expr.all (xs ++ ys ++ zs) ∧
          Expr.any (xs ++ [Expr.any ys] ++ zs) = Expr.any (xs ++ ys ++ zs)) ∧
      Expr.MonoidOnNormal Expr.both (.const true) (.const false) ∧
      Expr.MonoidOnNormal Expr.either (.const false) (.const true) ∧
      ∀ {ρ α : Type} [ResultTypes ρ] (spec : Specification ρ α), spec.criteria.Normal →
        (∀ e ∈ spec.additionalCriteria, e.Normal) →
        spec.toExpr = Expr.all (spec.criteria :: spec.additionalCriteria) := by
  refine ⟨?_, ?_, Expr.memberOf_normal, ?_, ?_, ?_, ?_, ?_⟩
  · exact fun es h => ⟨Expr.all_normal h, Expr.any_normal h⟩
  · exact fun e h => ⟨Expr.negate_normal h, Expr.negate_negate h⟩
  · exact fun c model e h => c.compile_normal h
  · intro xs ys zs h
    exact ⟨Expr.combine_nested true xs zs h, Expr.combine_nested false xs zs h⟩
  · exact Expr.monoid_combine true
  · exact Expr.monoid_combine false
  · exact fun spec core more => spec.toExpr_eq_all core more

theorem normal_forms_tagged :
    (Expr.negate (.and [.null "Tag" true, .empty "Name" true])).Normal ∧
      Expr.all [.null "Id" true, Expr.all [.null "Tag" true, .empty "Name" true]] =
        .and [.null "Id" true, .null "Tag" true, .empty "Name" true] := by
  obtain ⟨combined, negated, -, -, nested, -⟩ := normal_forms
  have parts : ∀ e ∈ [.null "Tag" true, .empty "Name" true], Expr.Normal e := by
    simp [Expr.Normal.null, Expr.Normal.empty]
  exact ⟨(negated _ (combined _ parts).1).1, (nested [.null "Id" true] _ [] parts).1⟩

end EntityQuery
