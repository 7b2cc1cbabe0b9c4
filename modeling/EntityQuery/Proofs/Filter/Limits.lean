import EntityQuery.Proofs.Filter.Clauses
import EntityQuery.Proofs.Filter.Whitelist

set_option autoImplicit false

namespace EntityQuery

variable {ι : Type}

def Expr.WithinLimits (config : QueryConfig) : Expr → Prop
  | oneOf _ vs _ => 1 ≤ vs.length ∧ vs.length ≤ config.maxSetValues.toNat
  | text _ _ s => Text.byteLength s ≤ config.maxValueLength.toNat
  | _ => True

namespace FilterCompiler

variable (c : FilterCompiler ι) {r : ResolvedField ι} {leaf : Expr}

theorem compileText_limited {op : TextOp} {text : String}
    (short : Text.byteLength text ≤ c.config.maxValueLength.toNat)
    (h : leaf ∈ (compileText r op text).leaves) : leaf.WithinLimits c.config := by
  obtain ⟨-, mem⟩ := Expr.mem_leaves_of_then h
  obtain rfl := List.mem_singleton.1 mem
  exact short

theorem compileSet_limited {text : String} {negated : Bool}
    (h : leaf ∈ (c.compileSet r text negated).leaves) : leaf.WithinLimits c.config := by
  obtain ⟨few, inner⟩ := Expr.mem_leaves_of_else h
  rw [Bool.not_eq_true, exceeds_eq_false_iff] at few
  split at inner
  next values coerced =>
    have size := (forall₂_of_mapM_eq_some coerced).length_eq
    obtain ⟨some, mem⟩ := Expr.mem_leaves_of_else inner
    obtain rfl := List.mem_singleton.1 mem
    rw [List.isEmpty_iff, ← ne_eq, ← List.length_pos_iff] at some
    exact ⟨some, size ▸ few⟩
  next => simp at inner

theorem compileField_limited {op : FilterOperator} {text : String}
    (short : op.requiresValue = true → Text.byteLength text ≤ c.config.maxValueLength.toNat)
    (h : leaf ∈ (c.compileField r op text).leaves) : leaf.WithinLimits c.config := by
  cases op with
  | contains | startsWith | endsWith => exact c.compileText_limited (short rfl) h
  | oneOf | notOneOf => exact c.compileSet_limited h
  | isNull | isNotNull | isEmpty | isNotEmpty =>
    obtain ⟨-, mem⟩ := Expr.mem_leaves_of_then h
    obtain rfl := List.mem_singleton.1 mem
    trivial
  | _ =>
    simp only [compileField, compileCompare] at h
    split at h
    next =>
      obtain rfl := List.mem_singleton.1 h
      trivial
    next => simp at h

theorem yields_limited {item : FilterItem} (h : c.Yields item leaf) :
    leaf.WithinLimits c.config := by
  obtain ⟨e, compiled, mem⟩ := h
  rw [compileItem, bind_ok_iff] at compiled
  obtain ⟨op, -, same⟩ := compiled
  cases same
  rw [compileResolved] at mem
  split at mem
  next => simp at mem
  next r _ =>
    obtain ⟨short, inner⟩ := Expr.mem_leaves_of_else mem
    refine c.compileField_limited (fun required => ?_) inner
    rwa [required, Bool.true_and, Bool.not_eq_true, exceeds_eq_false_iff] at short

theorem compileSearch_limited {term : String} (h : leaf ∈ (c.compileSearch term).leaves) :
    leaf.WithinLimits c.config := by
  obtain ⟨short, f, -, rfl⟩ := c.mem_compileSearch_leaves h
  exact short

theorem length_compileItems_leaves_le (pairs : List (FilterItem × FilterOperator)) :
    ((c.compileItems pairs).flatMap Expr.leaves).length ≤ pairs.length := by
  have one := Expr.length_flatMap_le fun e mem =>
    Expr.length_leaves_le_one (c.compileItems_isLeaf pairs e mem)
  rwa [Nat.mul_one, compileItems, List.length_map] at one

theorem length_compileGroup_leaves_le (logic : FilterLogic)
    (pairs : List (FilterItem × FilterOperator)) :
    (c.compileGroup logic pairs).leaves.length ≤ pairs.length := by
  have members := c.length_compileItems_leaves_le pairs
  cases logic with
  | and => exact (Expr.leaves_combine_sublist true _).length_le.trans members
  | or =>
    rw [compileGroup]
    split
    next => simp
    next => exact (Expr.leaves_combine_sublist false _).length_le.trans members

theorem length_compileSearch_leaves_le (term : String) :
    (c.compileSearch term).leaves.length ≤ c.schema.stringFields.length := by
  obtain ⟨b, constant⟩ | ⟨-, searched⟩ := c.compileSearch_cases term
  next => simp [constant]
  next =>
    rw [searched]
    refine (Expr.leaves_combine_sublist false _).length_le.trans ?_
    simp [List.flatMap_map, Expr.leaves]

theorem length_compileGroups_leaves_le {model : FilterModel} (fits : ¬c.TooLarge model)
    {groups : List (FilterLogic × List (FilterItem × FilterOperator))}
    (resolves : ResolvesGroups model.groups groups) :
    ((groups.map fun (logic, items) => c.compileGroup logic items).flatMap Expr.leaves).length ≤
      c.config.maxFilterGroups.toNat * c.config.maxGroupItems.toNat := by
  obtain ⟨-, few, small⟩ : _ ∧ _ ∧ _ := by simpa only [TooLarge, not_or, not_exists] using fits
  rw [Nat.not_lt, resolves.length_eq] at few
  have each : ∀ pair ∈ groups, (c.compileGroup pair.1 pair.2).leaves.length ≤
      c.config.maxGroupItems.toNat := by
    intro pair mem
    obtain ⟨group, own, -, same⟩ := exists_of_mem_forall₂ resolves mem
    have size : group.items.length ≤ c.config.maxGroupItems.toNat :=
      Nat.not_lt.1 fun large => small group ⟨own, large⟩
    rw [same.length_eq] at size
    exact (c.length_compileGroup_leaves_le pair.1 pair.2).trans size
  rw [List.flatMap_map]
  exact (Expr.length_flatMap_le each).trans (Nat.mul_le_mul_right _ few)

theorem length_conjunction_leaves_le {model : FilterModel} (fits : ¬c.TooLarge model)
    {items : List (FilterItem × FilterOperator)}
    {groups : List (FilterLogic × List (FilterItem × FilterOperator))}
    (resolvesItems : Resolves model.items items)
    (resolvesGroups : ResolvesGroups model.groups groups) :
    (c.conjunction model items groups).leaves.length ≤
      c.config.maxFilterItems.toNat +
        c.config.maxFilterGroups.toNat * c.config.maxGroupItems.toNat +
        c.schema.stringFields.length := by
  have flat : ((c.compileItems items).flatMap Expr.leaves).length ≤
      c.config.maxFilterItems.toNat := by
    refine (c.length_compileItems_leaves_le items).trans ?_
    rw [← resolvesItems.length_eq]
    exact Nat.not_lt.1 fun large => fits (.inl large)
  have grouped := c.length_compileGroups_leaves_le fits resolvesGroups
  have searched : ((model.searchTerm.toList.map c.compileSearch).flatMap Expr.leaves).length ≤
      c.schema.stringFields.length := by
    cases model.searchTerm with
    | none => simp
    | some term => simpa using c.length_compileSearch_leaves_le term
  refine (Expr.leaves_combine_sublist true _).length_le.trans ?_
  rw [List.flatMap_append, List.flatMap_append, List.length_append, List.length_append]
  exact Nat.add_le_add (Nat.add_le_add flat grouped) searched

/-- Whatever a model holds, what it compiles to is no larger than the configuration allows, in the
number of its conditions, in the levels they are nested in, and in the size of each. -/
theorem compile_bounded {model : FilterModel} {e : Expr} (compiled : c.compile model = .ok e) :
    e.leaves.length ≤ c.config.maxFilterItems.toNat +
        c.config.maxFilterGroups.toNat * c.config.maxGroupItems.toNat +
        c.schema.stringFields.length ∧
      e.InClauses ∧ ∀ leaf ∈ e.leaves, leaf.WithinLimits c.config := by
  have clauses := c.compile_of Expr.clauses_combine compiled
  cases unknown : unresolved? model.operators with
  | some name => simp [c.compile_unresolved unknown] at compiled
  | none =>
    obtain ⟨items, groups, resolvesItems, resolvesGroups, ok⟩ := c.compile_resolved unknown
    rw [ok, Except.ok.injEq] at compiled
    subst compiled
    refine ⟨?_, clauses, fun leaf mem => ?_⟩
    · split
      next => simp
      next fits =>
        rw [c.isOversized_iff] at fits
        exact c.length_conjunction_leaves_le fits resolvesItems resolvesGroups
    · obtain ⟨-, inner⟩ := Expr.mem_leaves_of_else mem
      obtain ⟨item, -, yields⟩ | ⟨term, -, searched⟩ :=
        c.conjunction_leaves resolvesItems resolvesGroups inner
      · exact c.yields_limited yields
      · exact c.compileSearch_limited searched

section

open Sample

def tightFilters : FilterCompiler Kind where
  schema := Kind.product.schema
  config :=
    { QueryConfig.default with
      maxFilterItems := 2, maxFilterGroups := 1, maxGroupItems := 2, maxSetValues := 2,
      maxValueLength := 12 }

def tightProbe : FilterModel :=
  { FilterModel.empty with
    searchTerm := some "  twelve bytes  "
    items := [⟨"supplier.TIER", "in", some "gold,,SILVER"⟩, ⟨"PRICE", ">=", some "cheap"⟩]
    groups := [⟨.or, [⟨"name", "contains", some " tea, leaves"⟩, ⟨"releasedon", "is-null", none⟩]⟩] }

theorem tightProbe_bounded :
    ∃ e, tightFilters.compile tightProbe = .ok e ∧ e.leaves.length = 8 ∧
      e.leaves.length ≤ 2 + 1 * 2 + tightFilters.schema.stringFields.length ∧
      tightFilters.schema.stringFields.length = 4 ∧ e.InClauses ∧
      ∀ leaf ∈ e.leaves, leaf.WithinLimits tightFilters.config := by
  have strings : tightFilters.schema.stringFields.length = 4 := by decide +kernel
  have probed : (match tightFilters.compile tightProbe with
      | .ok e => e.leaves.length == 8
      | .error _ => false) = true := by
    decide +kernel
  cases compiled : tightFilters.compile tightProbe with
  | error _ => simp [compiled] at probed
  | ok e =>
    rw [compiled] at probed
    obtain ⟨bound, clauses, within⟩ := tightFilters.compile_bounded compiled
    exact ⟨e, rfl, beq_iff_eq.1 probed, bound, strings, clauses, within⟩

end

end FilterCompiler

end EntityQuery
