import EntityQuery.Filter.Compile
import EntityQuery.Proofs.Except
import EntityQuery.Proofs.Expr.Folding
import Mathlib.Data.List.Forall2

set_option autoImplicit false

namespace EntityQuery

variable {ι : Type}

def unresolved? (operators : List String) : Option String :=
  operators.find? fun name => (FilterOperator.resolve? name).isNone

theorem FilterOperator.resolve?_name (op : FilterOperator) : resolve? op.name = some op := by
  cases op <;> decide +kernel

namespace FilterModel

def allItems (model : FilterModel) : List FilterItem :=
  model.items ++ model.groups.flatMap FilterGroup.items

def operators (model : FilterModel) : List String :=
  model.allItems.map FilterItem.operator

theorem operators_eq (model : FilterModel) :
    model.operators = model.items.map FilterItem.operator ++
      model.groups.flatMap fun group => group.items.map FilterItem.operator := by
  rw [operators, allItems, List.map_append, List.map_flatMap]

end FilterModel

namespace FilterCompiler

def ItemHolds (c : FilterCompiler ι) (get : String → Value) (item : FilterItem) : Prop :=
  ∃ e, c.compileItem item = .ok e ∧ e.evaluate get = true

def GroupHolds (c : FilterCompiler ι) (get : String → Value) (group : FilterGroup) : Prop :=
  match group.logic with
  | .and => ∀ item ∈ group.items, c.ItemHolds get item
  | .or => group.items = [] ∨ ∃ item ∈ group.items, c.ItemHolds get item

def TooLarge (c : FilterCompiler ι) (model : FilterModel) : Prop :=
  c.config.maxFilterItems.toNat < model.items.length ∨
    c.config.maxFilterGroups.toNat < model.groups.length ∨
    ∃ group ∈ model.groups, c.config.maxGroupItems.toNat < group.items.length

theorem exceeds_eq_false_iff {n : Nat} {limit : Count} :
    exceeds n limit = false ↔ n ≤ limit.toNat := by
  simp [exceeds]

theorem isOversized_iff (c : FilterCompiler ι) (model : FilterModel) :
    c.isOversized model = true ↔ c.TooLarge model := by
  simp [isOversized, TooLarge, exceeds, or_assoc]

abbrev Resolves (items : List FilterItem) (pairs : List (FilterItem × FilterOperator)) : Prop :=
  List.Forall₂
    (fun item pair => pair.1 = item ∧ FilterOperator.resolve? item.operator = some pair.2)
    items pairs

abbrev ResolvesGroups (groups : List FilterGroup)
    (resolved : List (FilterLogic × List (FilterItem × FilterOperator))) : Prop :=
  List.Forall₂ (fun group pair => pair.1 = group.logic ∧ Resolves group.items pair.2)
    groups resolved

theorem resolveOperator_of_none {name : String} (h : FilterOperator.resolve? name = none) :
    resolveOperator name = .error (.unknownOperator name) := by
  -- An equation for the definition would spell out all the names that operators go by.
  delta resolveOperator
  simp only [h]

theorem resolveOperator_of_some {name : String} {op : FilterOperator}
    (h : FilterOperator.resolve? name = some op) : resolveOperator name = .ok op := by
  delta resolveOperator
  simp only [h]

theorem resolveItems_error {items : List FilterItem} {name : String}
    (h : unresolved? (items.map FilterItem.operator) = some name) :
    resolveItems items = .error (.unknownOperator name) := by
  induction items with
  | nil => cases h
  | cons item items ih =>
    rw [resolveItems, bind_error_iff]
    cases resolved : FilterOperator.resolve? item.operator with
    | none =>
      simp only [unresolved?, List.map_cons, List.find?_cons, resolved, Option.isNone_none,
        Option.some.injEq] at h
      subst h
      exact .inl (resolveOperator_of_none resolved)
    | some op =>
      simp only [unresolved?, List.map_cons, List.find?_cons, resolved, Option.isNone_some] at h
      exact .inr ⟨op, resolveOperator_of_some resolved, bind_error_iff.2 (.inl (ih h))⟩

theorem resolveItems_ok {items : List FilterItem}
    (h : unresolved? (items.map FilterItem.operator) = none) :
    ∃ pairs, resolveItems items = .ok pairs ∧ Resolves items pairs := by
  induction items with
  | nil => exact ⟨[], rfl, .nil⟩
  | cons item items ih =>
    cases resolved : FilterOperator.resolve? item.operator with
    | none => simp [unresolved?, resolved] at h
    | some op =>
      simp only [unresolved?, List.map_cons, List.find?_cons, resolved, Option.isNone_some] at h
      obtain ⟨pairs, ok, resolves⟩ := ih h
      refine ⟨(item, op) :: pairs, ?_, .cons ⟨rfl, resolved⟩ resolves⟩
      rw [resolveItems, resolveOperator_of_some resolved, ok]
      rfl

theorem resolveGroups_error {groups : List FilterGroup} {name : String}
    (h : unresolved? (groups.flatMap fun group => group.items.map FilterItem.operator) =
      some name) :
    resolveGroups groups = .error (.unknownOperator name) := by
  induction groups with
  | nil => cases h
  | cons group groups ih =>
    rw [unresolved?, List.flatMap_cons, List.find?_append] at h
    rw [resolveGroups, bind_error_iff]
    cases first : unresolved? (group.items.map FilterItem.operator) with
    | some found =>
      rw [unresolved?] at first
      rw [first, Option.some_or, Option.some.injEq] at h
      exact .inl (resolveItems_error (h ▸ first))
    | none =>
      -- The group is passed over, and the name is that of a later one.
      obtain ⟨pairs, ok, -⟩ := resolveItems_ok first
      rw [unresolved?] at first
      rw [first, Option.none_or] at h
      exact .inr ⟨pairs, ok, bind_error_iff.2 (.inl (ih h))⟩

theorem resolveGroups_ok {groups : List FilterGroup}
    (h : unresolved? (groups.flatMap fun group => group.items.map FilterItem.operator) = none) :
    ∃ resolved, resolveGroups groups = .ok resolved ∧ ResolvesGroups groups resolved := by
  induction groups with
  | nil => exact ⟨[], rfl, .nil⟩
  | cons group groups ih =>
    rw [unresolved?, List.flatMap_cons, List.find?_append, Option.or_eq_none_iff] at h
    obtain ⟨pairs, ok, resolves⟩ := resolveItems_ok h.1
    obtain ⟨rest, okRest, resolvesRest⟩ := ih h.2
    refine ⟨(group.logic, pairs) :: rest, ?_, .cons ⟨rfl, resolves⟩ resolvesRest⟩
    rw [resolveGroups, ok, okRest]
    rfl

variable (c : FilterCompiler ι) (get : String → Value)

theorem compileItem_of_resolve {item : FilterItem} {op : FilterOperator}
    (h : FilterOperator.resolve? item.operator = some op) :
    c.compileItem item = .ok (c.compileResolved item op) := by
  rw [compileItem, resolveOperator_of_some h]
  rfl

theorem compileItem_of (op : FilterOperator) {name text : String} {r : ResolvedField ι}
    (resolved : c.resolveField? name = some r)
    (short : Text.byteLength text ≤ c.config.maxValueLength.toNat) :
    c.compileItem (.of name op text) = .ok (c.compileField r op text) := by
  have named : FilterOperator.resolve? (FilterItem.of name op text).operator = some op :=
    op.resolve?_name
  have item : (FilterItem.of name op text).value.getD "" = text := rfl
  have within : exceeds (Text.byteLength text) c.config.maxValueLength = false :=
    exceeds_eq_false_iff.2 short
  rw [c.compileItem_of_resolve named, compileResolved, item]
  simp only [FilterItem.of, resolved, within, Bool.and_false, Bool.false_eq_true, if_false]

theorem itemHolds_iff {item : FilterItem} {op : FilterOperator}
    (h : FilterOperator.resolve? item.operator = some op) :
    c.ItemHolds get item ↔ (c.compileResolved item op).evaluate get = true := by
  simp [ItemHolds, c.compileItem_of_resolve h]

theorem compileItems_all {items : List FilterItem} {pairs : List (FilterItem × FilterOperator)}
    (h : Resolves items pairs) :
    ((c.compileItems pairs).all fun e => e.evaluate get) = true ↔
      ∀ item ∈ items, c.ItemHolds get item := by
  induction h with
  | nil => simp [compileItems]
  | cons head _ ih =>
    obtain ⟨rfl, resolved⟩ := head
    rw [compileItems] at ih
    simp only [compileItems, List.map_cons, List.all_cons, Bool.and_eq_true, ih,
      c.itemHolds_iff get resolved, List.forall_mem_cons]

theorem compileItems_any {items : List FilterItem} {pairs : List (FilterItem × FilterOperator)}
    (h : Resolves items pairs) :
    ((c.compileItems pairs).any fun e => e.evaluate get) = true ↔
      ∃ item ∈ items, c.ItemHolds get item := by
  induction h with
  | nil => simp [compileItems]
  | cons head _ ih =>
    obtain ⟨rfl, resolved⟩ := head
    rw [compileItems] at ih
    simp only [compileItems, List.map_cons, List.any_cons, Bool.or_eq_true, ih,
      c.itemHolds_iff get resolved, List.exists_mem_cons_iff]

theorem compileGroup_evaluate {group : FilterGroup} {pairs : List (FilterItem × FilterOperator)}
    (h : Resolves group.items pairs) :
    (c.compileGroup group.logic pairs).evaluate get = true ↔ c.GroupHolds get group := by
  cases logic : group.logic with
  | and => simp only [compileGroup, GroupHolds, logic, Expr.evaluate_all, c.compileItems_all get h]
  | or =>
    have empty : pairs.isEmpty = true ↔ group.items = [] := by
      rw [List.isEmpty_iff, ← List.length_eq_zero_iff, ← h.length_eq, List.length_eq_zero_iff]
    simp only [compileGroup, GroupHolds, logic, ← empty]
    cases pairs.isEmpty with
    | true => simp only [if_true, Expr.evaluate_const, true_or]
    | false =>
      simp only [Bool.false_eq_true, if_false, false_or, Expr.evaluate_any,
        c.compileItems_any get h]

theorem compileGroups_all {groups : List FilterGroup}
    {resolved : List (FilterLogic × List (FilterItem × FilterOperator))}
    (h : ResolvesGroups groups resolved) :
    ((resolved.map fun (logic, items) => c.compileGroup logic items).all fun e => e.evaluate get) =
        true ↔
      ∀ group ∈ groups, c.GroupHolds get group := by
  induction h with
  | nil => simp
  | cons head _ ih =>
    obtain ⟨logic, resolves⟩ := head
    simp only [List.map_cons, List.all_cons, Bool.and_eq_true, ih, logic,
      c.compileGroup_evaluate get resolves, List.forall_mem_cons]

theorem compile_unresolved {model : FilterModel} {name : String}
    (h : unresolved? model.operators = some name) :
    c.compile model = .error (.unknownOperator name) := by
  rw [unresolved?, FilterModel.operators_eq, List.find?_append] at h
  rw [compile, bind_error_iff]
  cases items : unresolved? (model.items.map FilterItem.operator) with
  | some found =>
    rw [unresolved?] at items
    rw [items, Option.some_or, Option.some.injEq] at h
    exact .inl (resolveItems_error (h ▸ items))
  | none =>
    obtain ⟨pairs, ok, -⟩ := resolveItems_ok items
    rw [unresolved?] at items
    rw [items, Option.none_or] at h
    exact .inr ⟨pairs, ok, bind_error_iff.2 (.inl (resolveGroups_error h))⟩

theorem compileSearch_cases (term : String) :
    (∃ b, c.compileSearch term = .const b) ∨
      Text.byteLength (Text.trim term) ≤ c.config.maxValueLength.toNat ∧
        c.compileSearch term =
          .any (c.schema.stringFields.map fun f => .text f .contains (Text.trim term)) := by
  rw [compileSearch]
  split_ifs with blank long
  next => exact .inl ⟨true, rfl⟩
  next => exact .inl ⟨false, rfl⟩
  next =>
    rw [Bool.not_eq_true, exceeds_eq_false_iff] at long
    cases c.schema.stringFields with
    | nil => exact .inl ⟨true, rfl⟩
    | cons f fields => exact .inr ⟨long, rfl⟩

def conjunction (model : FilterModel) (items : List (FilterItem × FilterOperator))
    (groups : List (FilterLogic × List (FilterItem × FilterOperator))) : Expr :=
  .all (c.compileItems items ++ groups.map (fun (logic, items) => c.compileGroup logic items) ++
    model.searchTerm.toList.map c.compileSearch)

theorem compile_resolved {model : FilterModel} (h : unresolved? model.operators = none) :
    ∃ items groups, Resolves model.items items ∧ ResolvesGroups model.groups groups ∧
      c.compile model =
        .ok (if c.isOversized model then .const false else c.conjunction model items groups) := by
  rw [unresolved?, FilterModel.operators_eq, List.find?_append, Option.or_eq_none_iff] at h
  obtain ⟨items, okItems, resolvesItems⟩ := resolveItems_ok h.1
  obtain ⟨groups, okGroups, resolvesGroups⟩ := resolveGroups_ok h.2
  refine ⟨items, groups, resolvesItems, resolvesGroups, ?_⟩
  rw [compile, okItems, okGroups]
  cases c.isOversized model with
  | true => rfl
  | false => rfl

theorem conjunction_evaluate {model : FilterModel} {items : List (FilterItem × FilterOperator)}
    {groups : List (FilterLogic × List (FilterItem × FilterOperator))}
    (resolvesItems : Resolves model.items items)
    (resolvesGroups : ResolvesGroups model.groups groups) :
    (c.conjunction model items groups).evaluate get = true ↔
      (∀ item ∈ model.items, c.ItemHolds get item) ∧
        (∀ group ∈ model.groups, c.GroupHolds get group) ∧
        ∀ term ∈ model.searchTerm, (c.compileSearch term).evaluate get = true := by
  simp only [conjunction, Expr.evaluate_all, List.all_append, Bool.and_eq_true,
    c.compileItems_all get resolvesItems, c.compileGroups_all get resolvesGroups, and_assoc]
  simp

/--
The operators decide whether a model compiles, whatever its fields and its size. The boolean meaning
of what comes out is that of the model.
-/
theorem compile_meaning (model : FilterModel) :
    ((∃ name, c.compile model = .error (.unknownOperator name)) ↔
        ∃ name ∈ model.operators, FilterOperator.resolve? name = none) ∧
      match unresolved? model.operators with
      | some name => c.compile model = .error (.unknownOperator name)
      | none => ∃ e, c.compile model = .ok e ∧ ∀ get, (e.evaluate get = true ↔
          ¬ c.TooLarge model ∧
            (∀ item ∈ model.items, c.ItemHolds get item) ∧
            (∀ group ∈ model.groups, c.GroupHolds get group) ∧
            ∀ term ∈ model.searchTerm, (c.compileSearch term).evaluate get = true) := by
  have unknown : (∃ name ∈ model.operators, FilterOperator.resolve? name = none) ↔
      (unresolved? model.operators).isSome = true := by
    simp [unresolved?, Option.isNone_iff_eq_none]
  rw [unknown]
  cases first : unresolved? model.operators with
  | some name => simp [c.compile_unresolved first]
  | none =>
    obtain ⟨items, groups, resolvesItems, resolvesGroups, ok⟩ := c.compile_resolved first
    refine ⟨by simp [ok], _, ok, fun get => ?_⟩
    cases large : c.isOversized model with
    | true => simp [(c.isOversized_iff model).1 large]
    | false =>
      have within : ¬ c.TooLarge model := by simp [← c.isOversized_iff, large]
      rw [if_neg Bool.false_ne_true, c.conjunction_evaluate get resolvesItems resolvesGroups,
        iff_and_self]
      exact fun _ => within

end FilterCompiler

end EntityQuery
