import EntityQuery.Proofs.Filter.Whitelist
import EntityQuery.Specification.Builder

set_option autoImplicit false

namespace EntityQuery

variable {ι : Type}

theorem FilterModel.isEmpty_iff {model : FilterModel} :
    model.isEmpty = true ↔ model.items = [] ∧ (∀ group ∈ model.groups, group.items = []) ∧
      ∀ term ∈ model.searchTerm, Text.isBlankText term = true := by
  cases term : model.searchTerm <;> simp [isEmpty, term, and_assoc]

theorem FilterModel.operators_of_isEmpty {model : FilterModel} (empty : model.isEmpty = true) :
    model.operators = [] := by
  obtain ⟨items, groups, -⟩ := isEmpty_iff.1 empty
  simpa [operators_eq, items] using groups

namespace FilterCompiler

variable (c : FilterCompiler ι) {model : FilterModel}

theorem tooLarge_of_isEmpty (empty : model.isEmpty = true) :
    c.TooLarge model ↔ c.config.maxFilterGroups.toNat < model.groups.length := by
  obtain ⟨items, groups, -⟩ := FilterModel.isEmpty_iff.1 empty
  have small : ¬ ∃ group ∈ model.groups, c.config.maxGroupItems.toNat < group.items.length := by
    rintro ⟨group, mem, large⟩
    simp [groups group mem] at large
  simp [TooLarge, items, small]

theorem compileGroup_nil (logic : FilterLogic) : c.compileGroup logic [] = .const true := by
  cases logic <;> rfl

theorem compileSearch_of_blank {term : String} (blank : Text.isBlankText term = true) :
    c.compileSearch term = .const true := by
  have trimmed : Text.isBlankText (Text.trim term) = true :=
    (Text.isBlankText_trim term).trans blank
  rw [compileSearch, if_pos trimmed]

theorem conjunction_of_isEmpty (empty : model.isEmpty = true)
    {items : List (FilterItem × FilterOperator)}
    {groups : List (FilterLogic × List (FilterItem × FilterOperator))}
    (resolvesItems : Resolves model.items items)
    (resolvesGroups : ResolvesGroups model.groups groups) :
    c.conjunction model items groups = .const true := by
  obtain ⟨noItems, emptyGroups, blank⟩ := FilterModel.isEmpty_iff.1 empty
  obtain rfl := List.forall₂_nil_left_iff.1 (noItems ▸ resolvesItems)
  have group : ∀ pair ∈ groups, c.compileGroup pair.1 pair.2 = .const true := by
    intro pair mem
    obtain ⟨group, own, -, resolves⟩ := exists_of_mem_forall₂ resolvesGroups mem
    rw [emptyGroups group own] at resolves
    have none : pair.2 = [] := List.forall₂_nil_left_iff.1 resolves
    rw [none, compileGroup_nil]
  refine Expr.all_of_true fun e part => ?_
  simp only [compileItems, List.map_nil, List.nil_append, List.mem_append,
    List.mem_map, Option.mem_toList] at part
  obtain ⟨pair, mem, rfl⟩ | ⟨term, mem, rfl⟩ := part
  · exact group pair mem
  · exact c.compileSearch_of_blank (blank term mem)

theorem compile_of_isEmpty (empty : model.isEmpty = true) :
    c.compile model =
      .ok (.const (decide (model.groups.length ≤ c.config.maxFilterGroups.toNat))) := by
  have resolved : unresolved? model.operators = none := by
    rw [FilterModel.operators_of_isEmpty empty]
    rfl
  obtain ⟨items, groups, resolvesItems, resolvesGroups, ok⟩ := c.compile_resolved resolved
  rw [ok, c.conjunction_of_isEmpty empty resolvesItems resolvesGroups]
  have oversized := (c.isOversized_iff model).trans (c.tooLarge_of_isEmpty empty)
  by_cases within : model.groups.length ≤ c.config.maxFilterGroups.toNat
  next =>
    rw [if_neg (oversized.not.2 (Nat.not_lt.2 within)), decide_eq_true within]
  next =>
    rw [if_pos (oversized.2 (Nat.lt_of_not_le within)), decide_eq_false within]

/--
A filter model that asks for nothing constrains nothing and adds no criterion, as long as its groups
are within the limit; with more of them it is too large, and matches nothing.
-/
theorem empty_model_constrains_nothing (empty : model.isEmpty = true) :
    (model.groups.length ≤ c.config.maxFilterGroups.toNat →
      (∃ e, c.compile model = .ok e ∧ e.isTrue = true ∧ ∀ get, e.evaluate get = true) ∧
        ∀ {ρ α : Type} [ResultTypes ρ] (b : Builder ι ρ α), b.schema = c.schema →
          ∃ b', b.applyFilterModel model c.config = .ok b' ∧ b'.errors = b.errors ∧
            b'.spec = { b.spec with
              orderings := b.spec.orderings ++ c.compileSorts model.sorts }) ∧
    (c.config.maxFilterGroups.toNat < model.groups.length →
      ∃ e, c.compile model = .ok e ∧ e.isFalse = true ∧ ∀ get, e.evaluate get = false) := by
  have compiled := c.compile_of_isEmpty empty
  constructor
  · intro within
    rw [decide_eq_true within] at compiled
    refine ⟨⟨_, compiled, rfl, fun get => Expr.evaluate_const get true⟩, fun b same => ?_⟩
    rw [Builder.applyFilterModel, same, compiled]
    exact ⟨_, rfl, rfl, rfl⟩
  · intro beyond
    rw [decide_eq_false (Nat.not_le.2 beyond)] at compiled
    exact ⟨_, compiled, rfl, fun get => Expr.evaluate_const get false⟩

def idleModel (groups : Nat) : FilterModel :=
  ⟨some "\u00a0 \u3000", [], List.replicate groups ⟨.or, []⟩, []⟩

theorem idleModel_compiles :
    (idleModel 16).isEmpty = true ∧
      (idleModel 16).groups.length ≤ productFilters.config.maxFilterGroups.toNat ∧
      ∃ e, productFilters.compile (idleModel 16) = .ok e ∧ e.isTrue = true := by
  have empty : (idleModel 16).isEmpty = true := by decide +kernel
  have within : (idleModel 16).groups.length ≤ productFilters.config.maxFilterGroups.toNat := by
    decide +kernel
  obtain ⟨constrainsNothing, -⟩ := productFilters.empty_model_constrains_nothing empty
  obtain ⟨⟨e, compiled, identity, -⟩, -⟩ := constrainsNothing within
  exact ⟨empty, within, e, compiled, identity⟩

-- One group more, and the model is too large, though there is still nothing in it.
theorem idleModel_matches_nothing :
    (idleModel 17).isEmpty = true ∧
      ∃ e, productFilters.compile (idleModel 17) = .ok e ∧ e.isTrue = false ∧
        ∀ get, e.evaluate get = false := by
  have empty : (idleModel 17).isEmpty = true := by decide +kernel
  have beyond : ¬ (idleModel 17).groups.length ≤
      productFilters.config.maxFilterGroups.toNat := by
    decide +kernel
  have compiled := productFilters.compile_of_isEmpty empty
  rw [decide_eq_false beyond] at compiled
  exact ⟨empty, _, compiled, rfl, fun get => Expr.evaluate_const get false⟩

end FilterCompiler

end EntityQuery
