import EntityQuery.Proofs.Expr.Leaves
import EntityQuery.Proofs.Filter.Literal
import EntityQuery.Proofs.Filter.Meaning
import EntityQuery.Proofs.Schema.StringFields
import EntityQuery.Sample.Family

set_option autoImplicit false

namespace EntityQuery

variable {ι : Type}

namespace Expr

def Suits (r : ResolvedField ι) : Expr → Prop
  | compare _ _ v => r.descriptor.type.isObject = false ∧ r.descriptor.type.Holds v
  | oneOf _ vs _ => r.descriptor.type.isObject = false ∧ ∀ v ∈ vs, r.descriptor.type.Holds v
  | text _ _ _ => r.descriptor.type.isString = true
  | empty _ _ => r.descriptor.type.isString = true
  | null _ _ => r.nullable = true
  | _ => False

def WellTyped (s : Schema ι) (leaf : Expr) : Prop :=
  ∃ p r, leaf.fields = [p] ∧ s.resolvePath? p = some r ∧ r.path = p ∧ leaf.Suits r

end Expr

theorem isFieldName_of_foldAscii_eq {s t : String} (h : Text.foldAscii s = Text.foldAscii t) :
    isFieldName s = isFieldName t := by
  have letter : ∀ c d, Text.foldAsciiChar c = Text.foldAsciiChar d → c.isAlpha = d.isAlpha := by
    intro c d same
    obtain rfl | ⟨left, right⟩ := Text.eq_or_isAlpha_of_foldAsciiChar_eq same
    · rfl
    · rw [left, right]
  have inner : ∀ c d, Text.foldAsciiChar c = Text.foldAsciiChar d →
      (c.isAlphanum || decide (c = '.')) = (d.isAlphanum || decide (d = '.')) := by
    intro c d same
    obtain rfl | ⟨left, right⟩ := Text.eq_or_isAlpha_of_foldAsciiChar_eq same
    · rfl
    · simp [Char.isAlphanum, left, right]
  have folded := Text.map_foldAsciiChar_of_foldAscii_eq h
  rw [isFieldName, isFieldName]
  cases first : s.toList with
  | nil =>
    rw [first, List.map_nil] at folded
    rw [List.map_eq_nil_iff.1 folded.symm]
  | cons c cs =>
    cases second : t.toList with
    | nil => simp [first, second] at folded
    | cons d ds =>
      rw [first, second] at folded
      obtain ⟨head, tail⟩ := List.cons_eq_cons.1 folded
      simp only [letter c d head, Text.all_eq_of_map_foldAsciiChar_eq inner tail]

theorem exists_of_mem_forall₂ {α β : Type} {R : α → β → Prop} {xs : List α} {ys : List β}
    (h : List.Forall₂ R xs ys) {y : β} (mem : y ∈ ys) : ∃ x ∈ xs, R x y := by
  induction h with
  | nil => cases mem
  | @cons x _ _ _ related _ ih =>
    cases mem with
    | head => exact ⟨x, List.mem_cons_self, related⟩
    | tail _ mem =>
      obtain ⟨x, inner, related⟩ := ih mem
      exact ⟨x, List.mem_cons_of_mem _ inner, related⟩

theorem forall₂_of_mapM_eq_some {α β : Type} {f : α → Option β} {xs : List α} {ys : List β}
    (h : xs.mapM f = some ys) : List.Forall₂ (fun x y => f x = some y) xs ys := by
  induction xs generalizing ys with
  | nil =>
    cases h
    exact .nil
  | cons x xs ih =>
    simp only [List.mapM_cons, Option.bind_eq_bind, Option.bind_eq_some_iff] at h
    obtain ⟨y, first, rest, collected, same⟩ := h
    cases same
    exact .cons first (ih collected)

namespace FilterCompiler

variable (c : FilterCompiler ι) {r : ResolvedField ι} {leaf : Expr}

theorem resolveField?_canonical {name : String} (h : c.resolveField? name = some r) :
    c.schema.resolvePath? r.path = some r ∧ isFieldName r.path = true := by
  rw [resolveField?] at h
  split at h
  next valid =>
    obtain ⟨fixed, fold⟩ := Schema.resolvePath?_canonical h
    exact ⟨fixed, (isFieldName_of_foldAscii_eq fold).trans valid⟩
  next => cases h

theorem coerce?_holds {f : FieldDescriptor ι} {text : String} {v : Value}
    (h : c.coerce? f text = some v) : f.type.isObject = false ∧ f.type.Holds v := by
  rw [coerce?] at h
  split at h
  next => cases h
  next scalar =>
    have scalar : f.type.isObject = false := by simpa using scalar
    refine ⟨scalar, ?_⟩
    split at h
    next read =>
      cases h
      exact FieldType.readTrimmed?_holds read
    next =>
      cases policy : c.config.parseFailure with
      | defaultValue =>
        simp only [policy, Option.some.injEq] at h
        exact h ▸ FieldType.defaultValue_holds scalar
      | noMatch => simp [policy] at h

theorem compileNull_leaves {negated : Bool} (h : leaf ∈ (compileNull r negated).leaves) :
    leaf.fields = [r.path] ∧ leaf.Suits r := by
  obtain ⟨nullable, mem⟩ := Expr.mem_leaves_of_then h
  obtain rfl := List.mem_singleton.1 mem
  exact ⟨rfl, nullable⟩

theorem compileEmpty_leaves {negated : Bool} (h : leaf ∈ (compileEmpty r negated).leaves) :
    leaf.fields = [r.path] ∧ leaf.Suits r := by
  obtain ⟨string, mem⟩ := Expr.mem_leaves_of_then h
  obtain rfl := List.mem_singleton.1 mem
  exact ⟨rfl, string⟩

theorem compileText_leaves {op : TextOp} {text : String}
    (h : leaf ∈ (compileText r op text).leaves) : leaf.fields = [r.path] ∧ leaf.Suits r := by
  obtain ⟨string, mem⟩ := Expr.mem_leaves_of_then h
  obtain rfl := List.mem_singleton.1 mem
  exact ⟨rfl, string⟩

theorem compileCompare_leaves {op : CompareOp} {text : String}
    (h : leaf ∈ (c.compileCompare r op text).leaves) : leaf.fields = [r.path] ∧ leaf.Suits r := by
  rw [compileCompare] at h
  split at h
  next v coerced =>
    obtain rfl := List.mem_singleton.1 h
    exact ⟨rfl, c.coerce?_holds coerced⟩
  next => simp at h

theorem compileSet_leaves {text : String} {negated : Bool}
    (h : leaf ∈ (c.compileSet r text negated).leaves) :
    leaf.fields = [r.path] ∧ leaf.Suits r := by
  have within := (Expr.mem_leaves_of_else h).2
  split at within
  next values coerced =>
    have all : ∀ v ∈ values, r.descriptor.type.isObject = false ∧ r.descriptor.type.Holds v := by
      intro v mem
      obtain ⟨token, -, read⟩ := exists_of_mem_forall₂ (forall₂_of_mapM_eq_some coerced) mem
      exact c.coerce?_holds read
    have mem := (Expr.mem_leaves_of_else within).2
    obtain rfl := List.mem_singleton.1 mem
    -- Nothing is asked of the field for an empty list, so some value was read as its type.
    cases values with
    | nil => simp [Expr.memberOf] at within
    | cons v values => exact ⟨rfl, (all v List.mem_cons_self).1, fun w mem => (all w mem).2⟩
  next => simp at within

theorem compileField_leaves {op : FilterOperator} {text : String}
    (h : leaf ∈ (c.compileField r op text).leaves) : leaf.fields = [r.path] ∧ leaf.Suits r := by
  cases op with
  | isNull | isNotNull => exact compileNull_leaves h
  | isEmpty | isNotEmpty => exact compileEmpty_leaves h
  | contains | startsWith | endsWith => exact compileText_leaves h
  | oneOf | notOneOf => exact c.compileSet_leaves h
  | equals | notEquals | greaterThan | greaterOrEqual | lessThan | lessOrEqual =>
    exact c.compileCompare_leaves h

theorem compileResolved_leaves {item : FilterItem} {op : FilterOperator}
    (h : leaf ∈ (c.compileResolved item op).leaves) :
    leaf.WellTyped c.schema ∧ ∀ p ∈ leaf.fields, isFieldName p = true := by
  rw [compileResolved] at h
  split at h
  next => simp at h
  next r found =>
    obtain ⟨fixed, valid⟩ := c.resolveField?_canonical found
    obtain ⟨field, suits⟩ := c.compileField_leaves (Expr.mem_leaves_of_else h).2
    rw [field, List.forall_mem_singleton]
    exact ⟨⟨r.path, r, field, fixed, rfl, suits⟩, valid⟩

def Yields (item : FilterItem) (leaf : Expr) : Prop :=
  ∃ e, c.compileItem item = .ok e ∧ leaf ∈ e.leaves

theorem yields_wellTyped {item : FilterItem} (h : c.Yields item leaf) :
    leaf.WellTyped c.schema ∧ ∀ p ∈ leaf.fields, isFieldName p = true := by
  obtain ⟨e, compiled, mem⟩ := h
  rw [compileItem, bind_ok_iff] at compiled
  obtain ⟨op, -, same⟩ := compiled
  cases same
  exact c.compileResolved_leaves mem

theorem compileItems_leaves {items : List FilterItem} {pairs : List (FilterItem × FilterOperator)}
    (resolves : Resolves items pairs) (h : leaf ∈ (c.compileItems pairs).flatMap Expr.leaves) :
    ∃ item ∈ items, c.Yields item leaf := by
  rw [compileItems, List.flatMap_map, List.mem_flatMap] at h
  obtain ⟨pair, mem, inner⟩ := h
  obtain ⟨item, own, rfl, resolved⟩ := exists_of_mem_forall₂ resolves mem
  exact ⟨pair.1, own, _, c.compileItem_of_resolve resolved, inner⟩

theorem compileGroup_leaves {items : List FilterItem} {logic : FilterLogic}
    {pairs : List (FilterItem × FilterOperator)} (resolves : Resolves items pairs)
    (h : leaf ∈ (c.compileGroup logic pairs).leaves) : ∃ item ∈ items, c.Yields item leaf := by
  cases logic with
  | and => exact c.compileItems_leaves resolves (Expr.leaves_all_subset _ h)
  | or =>
    have some := (Expr.mem_leaves_of_else h).2
    exact c.compileItems_leaves resolves (Expr.leaves_any_subset _ some)

theorem conjunction_leaves {model : FilterModel} {items : List (FilterItem × FilterOperator)}
    {groups : List (FilterLogic × List (FilterItem × FilterOperator))}
    (resolvesItems : Resolves model.items items)
    (resolvesGroups : ResolvesGroups model.groups groups)
    (h : leaf ∈ (c.conjunction model items groups).leaves) :
    (∃ item ∈ model.allItems, c.Yields item leaf) ∨
      ∃ term ∈ model.searchTerm, leaf ∈ (c.compileSearch term).leaves := by
  have parts := Expr.leaves_all_subset _ h
  simp only [List.flatMap_append, List.mem_append] at parts
  obtain (flat | grouped) | searched := parts
  next =>
    obtain ⟨item, mem, yields⟩ := c.compileItems_leaves resolvesItems flat
    exact .inl ⟨item, List.mem_append_left _ mem, yields⟩
  next =>
    rw [List.flatMap_map, List.mem_flatMap] at grouped
    obtain ⟨⟨logic, pairs⟩, mem, inner⟩ := grouped
    obtain ⟨group, own, -, resolves⟩ := exists_of_mem_forall₂ resolvesGroups mem
    obtain ⟨item, part, yields⟩ := c.compileGroup_leaves resolves inner
    exact .inl ⟨item, List.mem_append_right _ (List.mem_flatMap.2 ⟨group, own, part⟩), yields⟩
  next =>
    rw [List.flatMap_map, List.mem_flatMap] at searched
    obtain ⟨term, mem, inner⟩ := searched
    exact .inr ⟨term, Option.mem_toList.1 mem, inner⟩

theorem mem_compileSearch_leaves {term : String} (h : leaf ∈ (c.compileSearch term).leaves) :
    Text.byteLength (Text.trim term) ≤ c.config.maxValueLength.toNat ∧
      ∃ f ∈ c.schema.stringFields, leaf = .text f .contains (Text.trim term) := by
  obtain ⟨b, constant⟩ | ⟨short, searched⟩ := c.compileSearch_cases term
  next => simp [constant] at h
  next =>
    rw [searched] at h
    have inner := Expr.leaves_any_subset _ h
    rw [List.flatMap_map, List.mem_flatMap] at inner
    obtain ⟨f, mem, same⟩ := inner
    exact ⟨short, f, mem, List.mem_singleton.1 same⟩

theorem compileSearch_leaves (named : c.schema.WellNamed) {term : String}
    (h : leaf ∈ (c.compileSearch term).leaves) : leaf.WellTyped c.schema := by
  obtain ⟨-, path, mem, rfl⟩ := c.mem_compileSearch_leaves h
  obtain ⟨r, resolved, canonical, string⟩ := Schema.stringFields_resolve named mem
  exact ⟨path, r, rfl, resolved, canonical, by simp [Expr.Suits, string, FieldType.isString]⟩

def Orders (request : SortItem) (criterion : SortCriterion) : Prop :=
  ∃ r, c.resolveField? request.field = some r ∧ criterion = ⟨r.path, request.direction⟩ ∧
    c.schema.resolvePath? criterion.field = some r ∧ isFieldName criterion.field = true

theorem compileSorts_orders (sorts : List SortItem) :
    List.Forall₂ c.Orders
      (sorts.filter fun request => (c.resolveField? request.field).isSome)
      (c.compileSorts sorts) := by
  induction sorts with
  | nil => exact .nil
  | cons request sorts ih =>
    rw [compileSorts] at ih ⊢
    cases found : c.resolveField? request.field with
    | none => simpa [found] using ih
    | some r =>
      obtain ⟨fixed, valid⟩ := c.resolveField?_canonical found
      simpa [found] using List.Forall₂.cons ⟨r, found, rfl, fixed, valid⟩ ih

theorem compile_leaves (named : c.schema.WellNamed) {model : FilterModel} {e : Expr}
    (compiled : c.compile model = .ok e) (mem : leaf ∈ e.leaves) :
    leaf.WellTyped c.schema ∧
      ((∃ item ∈ model.allItems, c.Yields item leaf ∧ ∀ p ∈ leaf.fields, isFieldName p = true) ∨
        ∃ term ∈ model.searchTerm, leaf ∈ (c.compileSearch term).leaves) := by
  cases first : unresolved? model.operators with
  | some name => simp [c.compile_unresolved first] at compiled
  | none =>
    obtain ⟨items, groups, resolvesItems, resolvesGroups, ok⟩ := c.compile_resolved first
    rw [ok, Except.ok.injEq] at compiled
    subst compiled
    obtain ⟨item, own, yields⟩ | ⟨term, own, inner⟩ :=
      c.conjunction_leaves resolvesItems resolvesGroups (Expr.mem_leaves_of_else mem).2
    next =>
      obtain ⟨typed, valid⟩ := c.yields_wellTyped yields
      exact ⟨typed, .inl ⟨item, own, yields, valid⟩⟩
    next => exact ⟨c.compileSearch_leaves named inner, .inr ⟨term, own, inner⟩⟩

/--
Names and values come from outside; the paths of what they compile to do not. A condition is well
typed over the schema, and its path is a field name unless it is part of the search. An ordering
stands for each request whose field is known, in the order of the requests.
-/
theorem compile_keeps_to_schema (named : c.schema.WellNamed) :
    (∀ (model : FilterModel) (e : Expr), c.compile model = .ok e → ∀ leaf ∈ e.leaves,
      leaf.WellTyped c.schema ∧
        ((∃ item ∈ model.allItems, c.Yields item leaf ∧ ∀ p ∈ leaf.fields, isFieldName p = true) ∨
          ∃ term ∈ model.searchTerm, leaf ∈ (c.compileSearch term).leaves)) ∧
      ∀ sorts : List SortItem,
        List.Forall₂ c.Orders
          (sorts.filter fun request => (c.resolveField? request.field).isSome)
          (c.compileSorts sorts) :=
  ⟨fun _ _ compiled _ mem => c.compile_leaves named compiled mem, c.compileSorts_orders⟩

section

open Sample

def productFilters : FilterCompiler Kind :=
  ⟨Kind.product.schema, .default⟩

def productProbe : FilterModel :=
  { FilterModel.empty with
    searchTerm := some " tea "
    items := [⟨"supplier.TIER", "in", some "gold, ,SILVER"⟩, ⟨"PRICE", ">=", some "cheap"⟩]
    groups := [⟨.or, [⟨"password", "equals", some "' or 1"⟩, ⟨"releasedon", "is-null", none⟩]⟩] }

def productConditions : Expr :=
  .and [.oneOf "Supplier.Tier" [.string "Gold", .string "Silver"] false,
    .compare "Price" .ge (.float Binary64.zero), .null "ReleasedOn" false,
    .or [.text "Name" .contains "tea", .text "Description" .contains "tea",
      .text "Supplier.Name" .contains "tea", .text "Supplier.Email" .contains "tea"]]

theorem productProbe_keeps_to_schema :
    productFilters.schema.WellNamed ∧
      (∃ e, productFilters.compile productProbe = .ok e ∧ e.same productConditions = true ∧
        ∀ leaf ∈ e.leaves, leaf.WellTyped productFilters.schema) ∧
      List.Forall₂ productFilters.Orders [⟨"SUPPLIER.name", .descending⟩]
        (productFilters.compileSorts
          [⟨"password", .ascending⟩, ⟨"SUPPLIER.name", .descending⟩]) := by
  have named : productFilters.schema.WellNamed := fun kind _ => family_wellNamed kind
  obtain ⟨conditions, orders⟩ := productFilters.compile_keeps_to_schema named
  have probed : (match productFilters.compile productProbe with
      | .ok e => e.same productConditions
      | .error _ => false) = true := by
    decide +kernel
  have known : ([⟨"password", .ascending⟩, ⟨"SUPPLIER.name", .descending⟩].filter
      fun request : SortItem => (productFilters.resolveField? request.field).isSome) =
      [⟨"SUPPLIER.name", .descending⟩] := by
    decide +kernel
  refine ⟨named, ?_, known ▸ orders _⟩
  cases compiled : productFilters.compile productProbe with
  | error _ => simp [compiled] at probed
  | ok e =>
    rw [compiled] at probed
    exact ⟨e, rfl, probed, fun leaf mem => (conditions _ e compiled leaf mem).1⟩

end

end FilterCompiler

end EntityQuery
