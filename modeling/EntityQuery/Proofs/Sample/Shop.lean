import EntityQuery.Proofs.Filter.NullChecks
import EntityQuery.Sample.Shop

set_option autoImplicit false

namespace EntityQuery.Sample

theorem qualified_ne {name path plain : String} (dotFree : '.' ∉ plain.toList) :
    name ++ "." ++ path ≠ plain := by
  rintro rfl
  simp at dotFree

section

variable {α : Type} (name : String) (value : α → String → Value) (row : Option α)

theorem nestedValue_own : nestedValue name value row name = .null := by
  have tooLong : ¬ name.toList ++ ['.'] <+: name.toList := by
    intro within
    have length := within.length_le
    rw [List.length_append, List.length_singleton] at length
    omega
  rw [nestedValue, if_neg (by rwa [List.isPrefixOf_iff_prefix])]

theorem nestedValue_below (path : String) :
    nestedValue name value row (name ++ "." ++ path) =
      (row.map fun inner => value inner path).getD .null := by
  have chars : (name ++ "." ++ path).toList = name.toList ++ ['.'] ++ path.toList := by simp
  have below : (name.toList ++ ['.']).isPrefixOf (name ++ "." ++ path).toList = true := by
    rw [chars, List.isPrefixOf_iff_prefix]
    exact List.prefix_append _ _
  have rest : String.ofList ((name ++ "." ++ path).toList.drop (name.toList ++ ['.']).length) =
      path := by
    rw [chars, List.drop_left, String.ofList_toList]
  rw [nestedValue, if_pos below, rest]
  cases row <;> rfl

end

theorem optionValue_admits {α : Type} {r : ResolvedField Kind} {value : α → Value}
    (nullable : r.nullable = true) (kind : ∀ a, r.descriptor.type.isKindOf (value a) = true)
    (content : Option α) : r.Admits (optionValue value content) := by
  cases content with
  | none => exact .inr ⟨nullable, rfl⟩
  | some a => exact .inl (kind a)

theorem customers_readAsDeclared : customers.ReadsAsDeclared := by
  refine .of_fields (by decide) ?_
  simp only [customers, Kind.schema, Schema.entity, family, customer, List.forall_mem_cons]
  exact ⟨.plain rfl fun _ => .inl rfl, .plain rfl fun _ => .inl rfl,
    .plain rfl fun c => optionValue_admits rfl (fun _ => rfl) c.email,
    .plain rfl fun _ => .inl rfl, List.forall_mem_nil _⟩

theorem reviews_readAsDeclared : reviews.ReadsAsDeclared := by
  refine .of_fields (by decide) ?_
  simp only [reviews, Kind.schema, Schema.entity, family, review, List.forall_mem_cons]
  exact ⟨.plain rfl fun _ => .inl rfl, .plain rfl fun _ => .inl rfl,
    .plain rfl fun _ => .inl rfl, List.forall_mem_nil _⟩

theorem Product.value_below (p : Product) (path : String) :
    p.value ("Supplier" ++ "." ++ path) =
      (p.supplier.map fun c => c.value path).getD .null := by
  rw [← nestedValue_below "Supplier" Customer.value, Product.value]
  all_goals exact qualified_ne (by decide)

theorem products_nest :
    products.Nests (.optional "Supplier" (.object .customer)) customers Product.supplier where
  type := rfl
  schema := rfl
  own p := nestedValue_own "Supplier" Customer.value p.supplier
  below := Product.value_below

theorem products_readAsDeclared : products.ReadsAsDeclared := by
  refine .of_fields (by decide) ?_
  simp only [products, Kind.schema, Schema.entity, family, product, List.forall_mem_cons]
  exact ⟨.plain rfl fun _ => .inl rfl, .plain rfl fun _ => .inl rfl,
    .plain rfl fun _ => .inl rfl,
    .plain rfl fun p => optionValue_admits rfl (fun _ => rfl) p.description,
    .plain rfl fun _ => .inl rfl, .plain rfl fun _ => .inl rfl, .plain rfl fun _ => .inl rfl,
    .plain rfl fun p => optionValue_admits rfl (fun _ => rfl) p.releasedOn,
    .nested customers Product.supplier products_nest customers_readAsDeclared,
    List.forall_mem_nil _⟩

theorem orderItems_readAsDeclared : orderItems.ReadsAsDeclared := by
  refine .of_fields (by decide) ?_
  simp only [orderItems, Kind.schema, Schema.entity, family, orderItem, List.forall_mem_cons]
  exact ⟨.plain rfl fun _ => .inl rfl, .plain rfl fun _ => .inl rfl, List.forall_mem_nil _⟩

theorem Order.value_below (o : Order) (path : String) :
    o.value ("Customer" ++ "." ++ path) =
      (o.customer.map fun c => c.value path).getD .null := by
  rw [← nestedValue_below "Customer" Customer.value, Order.value]
  all_goals exact qualified_ne (by decide)

theorem orders_nest :
    orders.Nests (.optional "Customer" (.object .customer)) customers Order.customer where
  type := rfl
  schema := rfl
  own o := nestedValue_own "Customer" Customer.value o.customer
  below := Order.value_below

theorem orders_readAsDeclared : orders.ReadsAsDeclared := by
  refine .of_fields (by decide) ?_
  simp only [orders, Kind.schema, Schema.entity, family, order, List.forall_mem_cons]
  exact ⟨.plain rfl fun _ => .inl rfl, .plain rfl fun _ => .inl rfl,
    .plain rfl fun _ => .inl rfl, .plain rfl fun _ => .inl rfl, .plain rfl fun _ => .inl rfl,
    .nested customers Order.customer orders_nest customers_readAsDeclared,
    List.forall_mem_nil _⟩

/-- In the shop every null check, those that are not put to the rows included, is answered as the
value that is read from the row; and what is not null is of the declared kind. -/
theorem shop_nullChecksRead :
    customers.NullChecksRead ∧ reviews.NullChecksRead ∧ products.NullChecksRead ∧
      orderItems.NullChecksRead ∧ orders.NullChecksRead :=
  ⟨customers_readAsDeclared.nullChecksRead, reviews_readAsDeclared.nullChecksRead,
    products_readAsDeclared.nullChecksRead, orderItems_readAsDeclared.nullChecksRead,
    orders_readAsDeclared.nullChecksRead⟩

-- The tier of a supplier is required, but a supplier is not.
theorem supplierTier_nullChecksRead :
    (∃ e, FilterCompiler.productFilters.compileItem ⟨"SUPPLIER.tier", "null", none⟩ = .ok e ∧
      ∀ p, e.evaluate (products.value p) = true ↔ products.value p "Supplier.Tier" = .null) ∧
    ∃ e, FilterCompiler.productFilters.compileItem ⟨"PRICE", "Is_Not_Null", none⟩ = .ok e ∧
      ∀ p, e.evaluate (products.value p) = true ↔ products.value p "Price" ≠ .null := by
  obtain ⟨-, -, ⟨-, isNull, isNotNull⟩, -, -⟩ := shop_nullChecksRead
  have tier : products.schema.resolvePath? "Supplier.Tier" =
      some ⟨"Supplier.Tier", .required "Tier" (.enumeration tiers), true⟩ := by
    rfl
  have price : products.schema.resolvePath? "Price" =
      some ⟨"Price", .required "Price" .float, false⟩ := by
    rfl
  exact ⟨isNull _ _ tier .default _ (by decide +kernel) (by decide +kernel),
    isNotNull _ _ price .default _ (by decide +kernel) (by decide +kernel)⟩

theorem customers_required (c : Customer) :
    ∀ f ∈ customers.schema.entity.fields, f.nullable = false →
      customers.value c f.name ≠ .null := by
  simp only [customers, Kind.schema, Schema.entity, family, customer, List.forall_mem_cons]
  exact ⟨nofun, nofun, nofun, nofun, List.forall_mem_nil _⟩

theorem products_overlookNested :
    products.OverlooksNested "Supplier" customers Product.supplier :=
  products_nest.overlooksNested products_readAsDeclared.nullChecksRead rfl (by decide +kernel)
    customers_required

theorem orders_overlookNested : orders.OverlooksNested "Customer" customers Order.customer :=
  orders_nest.overlooksNested orders_readAsDeclared.nullChecksRead rfl (by decide +kernel)
    customers_required

/-- The null checks of a nested entity are right for just the rows that are without it, as they are
answered alike for every row. Those of a required field below it are right for all rows. -/
theorem shop_overlooksNested (p : Product) (o : Order) :
    (products.SeesNested "Supplier" Product.supplier p ↔ p.supplier = none) ∧
      (orders.SeesNested "Customer" Order.customer o ↔ o.customer = none) ∧
      products.OverlooksNested "Supplier" customers Product.supplier ∧
      orders.OverlooksNested "Customer" customers Order.customer :=
  ⟨products_overlookNested.seesNested_iff p, orders_overlookNested.seesNested_iff o,
    products_overlookNested, orders_overlookNested⟩

-- The gizmo has a supplier, and the check of the identifier of the supplier finds it.
theorem supplied_gizmo_lacks_supplier :
    ∃ p ∈ catalogue, p.supplier ≠ none ∧
      (∃ e, FilterCompiler.productFilters.compileItem (.isNull "Supplier") = .ok e ∧
        e.evaluate (products.value p) = true) ∧
      (∃ e, FilterCompiler.productFilters.compileItem (.valueless "Supplier" .isNotNull) = .ok e ∧
        e.evaluate (products.value p) = false) ∧
      ∃ e, FilterCompiler.productFilters.compileItem (.valueless "Supplier.Id" .isNotNull) = .ok e ∧
        e.evaluate (products.value p) = true := by
  obtain ⟨isNull, isNotNull, -, isNotNullBelow⟩ := products_overlookNested
  have id : .required "Id" .integer ∈ customers.schema.entity.fields := List.mem_cons_self
  obtain ⟨absent, compiledAbsent, all⟩ :=
    isNull .default (.isNull "Supplier") rfl (by decide +kernel)
  obtain ⟨present, compiledPresent, none⟩ :=
    isNotNull .default (.valueless "Supplier" .isNotNull) rfl (by decide +kernel)
  obtain ⟨below, compiledBelow, found⟩ := isNotNullBelow _ id rfl .default
    (.valueless "Supplier.Id" .isNotNull) (by decide +kernel) (by decide +kernel)
  refine ⟨{ Product.plain 4 "Yellow Gizmo" 1000 false 21 with
      supplier := some ⟨9, "Acme Supplies", .none, "Bronze"⟩ },
    .tail _ (.tail _ (.tail _ (.head _))), nofun, ⟨absent, compiledAbsent, (all _).2 trivial⟩,
    ⟨present, compiledPresent, ?_⟩, below, compiledBelow, (found _).2 nofun⟩
  exact Bool.eq_false_iff.2 (none _).1

end EntityQuery.Sample
