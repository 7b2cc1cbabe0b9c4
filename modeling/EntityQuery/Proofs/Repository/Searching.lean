import EntityQuery.Proofs.Filter.Normal
import EntityQuery.Proofs.Filter.Search
import EntityQuery.Proofs.Repository.Matching
import EntityQuery.Sample.Projection
import EntityQuery.Sample.Shop

set_option autoImplicit false

namespace EntityQuery

variable {ι ρ α : Type} [ResultTypes ρ]

namespace Specification

def searching (clause : Option SearchClause) : Specification ρ α :=
  { Specification.all with search := clause }

variable {clause : Option SearchClause} {e : Expr}

theorem compile_searching (asks : (searching clause : Specification ρ α).searchExpr = e) :
    (searching clause : Specification ρ α).compile = .ok (onlyIf (!e.isTrue) (.search e)) := by
  subst asks
  have parts : (searching clause : Specification ρ α).compile =
      .ok ((searching clause : Specification ρ α).predicates ++ [] ++ [] ++ [] ++ []) := rfl
  rw [parts]
  simp only [List.append_nil]
  rfl

theorem selects_searching (asks : (searching clause : Specification ρ α).searchExpr = e)
    (E : Entity ι α) (storeFilter : Option Expr) (row : α) :
    (searching clause : Specification ρ α).selects E storeFilter row =
      ((storeFilter.all fun e => E.satisfies e row) && E.satisfies e row) := by
  have shown : (searching clause : Specification ρ α).ignoreStoreFilters = false := rfl
  have core : (searching clause : Specification ρ α).toExpr = .const true := rfl
  rw [selects, shown, core, ← E.satisfies_searchExpr, asks, Bool.false_or, Entity.satisfies,
    Expr.evaluate_const, Bool.and_true]

theorem apply_searching (asks : (searching clause : Specification ρ α).searchExpr = e)
    (E : Entity ι α) {s : Store α} (faultless : s.fault = none) :
    ∃ q, Plan.apply E (onlyIf (!e.isTrue) (.search e)) s.query = .ok q ∧
      q.toList E false = .ok ((s.visible E).filter (E.satisfies e)) := by
  let r : Repository ι α := ⟨E, s, .default⟩
  have found : r.findMany (searching clause : Specification ρ α) false = .ok _ :=
    Repository.findMany_unshaped faultless rfl rfl
  obtain ⟨q, prepared, executed⟩ := Repository.findMany_ok_iff.1 found
  obtain ⟨plan, compiled, applied⟩ := bind_ok_iff.1 prepared
  obtain rfl := Except.ok.inj ((compile_searching asks).symm.trans compiled)
  refine ⟨q, applied, executed.trans ?_⟩
  rw [Store.visible, List.filter_filter]
  refine congrArg Except.ok (List.filter_congr fun row _ => ?_)
  rw [selects_searching asks, Bool.and_comm]

end Specification

def Schema.searchClause? (s : Schema ι) (term : String) : Option SearchClause :=
  if Text.isBlankText term then none else some ⟨Text.trim term, s.stringFields⟩

theorem Builder.search_everywhere (s : Schema ι) (term : String) :
    ((Builder.start s).search term []).build =
      .ok (.searching (s.searchClause? term) : Specification ρ α) := by
  rw [search, Text.isBlankText_trim, Schema.searchClause?]
  cases Text.isBlankText term <;> rfl

namespace FilterCompiler

variable (c : FilterCompiler ι) {term : String}

theorem compile_search (term : String) :
    c.compile (FilterModel.empty.search term) = .ok (c.compileSearch term) := by
  have small : c.isOversized (FilterModel.empty.search term) = false := by
    simp [isOversized, exceeds, FilterModel.empty, FilterModel.search]
  have alone : c.compile (FilterModel.empty.search term) = .ok (.all [c.compileSearch term]) := by
    rw [compile, small]
    rfl
  have single : Expr.combine true [c.compileSearch term] = c.compileSearch term :=
    Expr.combine_singleton (c.compileSearch_normal term)
  rw [Expr.combine, if_pos rfl] at single
  rw [alone, single]

theorem searchExpr_searching
    (short : Text.byteLength (Text.trim term) ≤ c.config.maxValueLength.toNat) :
    (Specification.searching (c.schema.searchClause? term) : Specification ρ α).searchExpr =
      c.compileSearch term := by
  rw [c.compileSearch_within short, Schema.searchClause?]
  cases blank : Text.isBlankText term with
  | true => rfl
  | false =>
    change SearchClause.toExpr ⟨Text.trim term, c.schema.stringFields⟩ = _
    rw [SearchClause.toExpr, Text.isBlankText_trim, blank, Text.trim_trim]

end FilterCompiler

/--
A search of every string field comes to one expression, whether a specification or a filter model
asks for it. The plan keeps the rows that satisfy it, and is empty if there is nothing to look for.
-/
theorem searches_agree (E : Entity ι α) (config : QueryConfig) (term : String)
    (short : Text.byteLength (Text.trim term) ≤ config.maxValueLength.toNat) :
    ∃ (spec : Specification ρ α) (plan : Plan) (e : Expr),
      ((Builder.start E.schema).search term []).build = .ok spec ∧ spec.compile = .ok plan ∧
      FilterCompiler.compile ⟨E.schema, config⟩ (FilterModel.empty.search term) = .ok e ∧
      (∀ s : Store α, s.fault = none → ∃ q, plan.apply E s.query = .ok q ∧
        q.toList E false = .ok ((s.visible E).filter (E.satisfies e))) ∧
      plan = onlyIf (!e.isTrue) (.search e) ∧
      (Text.isBlankText term = true ∨ E.schema.stringFields = [] → plan = [] ∧ e = .const true) := by
  let c : FilterCompiler ι := ⟨E.schema, config⟩
  have asks := c.searchExpr_searching (ρ := ρ) (α := α) short
  refine ⟨_, _, _, Builder.search_everywhere E.schema term, Specification.compile_searching asks,
    c.compile_search term, fun s faultless => Specification.apply_searching asks E faultless, rfl,
    fun nothing => ?_⟩
  have idle : (Text.isBlankText term || c.schema.stringFields.isEmpty) = true := by
    simpa using nothing
  rw [c.compileSearch_within short, if_pos idle]
  exact ⟨rfl, rfl⟩

section

open Sample

def widgetTerm : String := "\u00a0WIDGET "

theorem widgets_searched :
    Text.byteLength (Text.trim widgetTerm) ≤ QueryConfig.default.maxValueLength.toNat ∧
      ∃ (spec : Specification ResultType Product) (plan : Plan) (e : Expr),
        ((Builder.start products.schema).search widgetTerm []).build = .ok spec ∧
        spec.compile = .ok plan ∧
        FilterCompiler.compile ⟨products.schema, .default⟩ (FilterModel.empty.search widgetTerm) =
          .ok e ∧
        (∃ q rows, plan.apply products (Store.ofRows catalogue).query = .ok q ∧
          q.toList products false = .ok rows ∧ rows.map Product.id = [1, 2]) ∧
        products.satisfies e (.plain 6 "Wide GET" 10 true 10) = false := by
  have short :
      Text.byteLength (Text.trim widgetTerm) ≤ QueryConfig.default.maxValueLength.toNat := by
    decide +kernel
  obtain ⟨spec, plan, e, built, compiled, filtered, keeps, -⟩ :=
    searches_agree (ρ := ResultType) products .default widgetTerm short
  obtain rfl := Except.ok.inj ((FilterCompiler.compile_search _ _).symm.trans filtered)
  obtain ⟨q, applied, found⟩ := keeps (.ofRows catalogue) rfl
  refine ⟨short, spec, plan, _, built, compiled, filtered, ⟨q, _, applied, found, ?_⟩, ?_⟩ <;>
    decide +kernel

end

end EntityQuery
