import EntityQuery.Proofs.Filter.Whitelist

set_option autoImplicit false

namespace EntityQuery

variable {ι : Type}

theorem Value.looselyEquals_string {v : Value} {s : String} :
    v.looselyEquals (.string s) = true ↔ v = .string s := by
  cases v <;> simp [looselyEquals, compare?, asFloat?]

namespace FilterCompiler

theorem tokens_join (vs : List String) : tokens (Text.join "," vs) = vs.flatMap tokens := by
  cases vs with
  | nil => decide +kernel
  | cons v vs =>
    have pieces : Text.split ',' (Text.join "," (v :: vs)) = (v :: vs).flatMap (Text.split ',') :=
      Text.split_join ',' (List.cons_ne_nil v vs)
    rw [tokens, pieces, List.map_flatMap, List.filter_flatMap]
    rfl

theorem mem_tokens_iff {token text : String} :
    token ∈ tokens text ↔ token ≠ "" ∧ ∃ piece ∈ Text.split ',' text, Text.trim piece = token := by
  simp [tokens, and_comm]

def Listable (v : String) : Prop :=
  v ≠ "" ∧ Text.trim v = v ∧ ',' ∉ v.toList

theorem Listable.tokens {v : String} (h : Listable v) : FilterCompiler.tokens v = [v] := by
  obtain ⟨nonempty, trimmed, whole⟩ := h
  simp [FilterCompiler.tokens, Text.split_of_notMem whole, trimmed, nonempty]

theorem flatMap_tokens {vs : List String} (h : ∀ v ∈ vs, Listable v) : vs.flatMap tokens = vs := by
  rw [List.flatMap_congr fun v mem => (h v mem).tokens]
  exact List.flatMap_singleton' vs

variable (c : FilterCompiler ι) {name text : String} {r : ResolvedField ι}

theorem coerce?_string {f : FieldDescriptor ι} (type : f.type = .string) (text : String) :
    c.coerce? f text = some (.string (Text.trim text)) := by
  rw [coerce?, type]
  rfl

theorem compileCompare_string (type : r.descriptor.type = .string) (op : CompareOp) :
    c.compileCompare r op text = .compare r.path op (.string (Text.trim text)) := by
  rw [compileCompare, c.coerce?_string type]

theorem compileSet_string (type : r.descriptor.type = .string) (negated : Bool)
    (few : (tokens text).length ≤ c.config.maxSetValues.toNat) :
    c.compileSet r text negated = .memberOf r.path ((tokens text).map Value.string) negated := by
  have within : exceeds (tokens text).length c.config.maxSetValues = false :=
    exceeds_eq_false_iff.2 few
  have read : c.coerce? r.descriptor = fun token => pure (Value.string (Text.trim token)) :=
    funext (c.coerce?_string type)
  have trimmed : ∀ token ∈ tokens text, Text.trim token = token := by
    intro token mem
    obtain ⟨-, piece, -, rfl⟩ := mem_tokens_iff.1 mem
    exact Text.trim_trim piece
  have values : (tokens text).map (fun token => Value.string (Text.trim token)) =
      (tokens text).map Value.string :=
    List.map_congr_left fun token mem => congrArg Value.string (trimmed token mem)
  rw [compileSet, within, read, List.mapM_pure, values]
  rfl

theorem compileItem_equals (resolved : c.resolveField? name = some r)
    (type : r.descriptor.type = .string) {s : String}
    (short : Text.byteLength s ≤ c.config.maxValueLength.toNat) :
    ∃ e, c.compileItem (.equals name s) = .ok e ∧
      ∀ get, (e.evaluate get = true ↔ get r.path = .string (Text.trim s)) := by
  refine ⟨_, c.compileItem_of .equals resolved short, fun get => ?_⟩
  rw [compileField, c.compileCompare_string type, Expr.evaluate]
  exact Value.looselyEquals_string

theorem compileItem_oneOf (resolved : c.resolveField? name = some r)
    (type : r.descriptor.type = .string) {vs : List String}
    (short : Text.byteLength (Text.join "," vs) ≤ c.config.maxValueLength.toNat)
    (few : (vs.flatMap tokens).length ≤ c.config.maxSetValues.toNat) :
    ∃ e, c.compileItem (.oneOf name vs) = .ok e ∧
      ∀ get, (e.evaluate get = true ↔ ∃ token ∈ vs.flatMap tokens, get r.path = .string token) := by
  refine ⟨_, c.compileItem_of .oneOf resolved short, fun get => ?_⟩
  rw [← tokens_join] at few ⊢
  rw [compileField, c.compileSet_string type false few, Expr.evaluate_memberOf]
  simp [Value.looselyEquals_string]

/--
Every string is looked for trimmed, and of a set every piece between commas that is not blank. So
the strings that a set can hold as they are, are looked for as they are.
-/
theorem string_items_exact (resolved : c.resolveField? name = some r)
    (type : r.descriptor.type = .string) :
    (∀ s : String, Text.byteLength s ≤ c.config.maxValueLength.toNat →
      ∃ e, c.compileItem (.equals name s) = .ok e ∧
        ∀ get, (e.evaluate get = true ↔ get r.path = .string (Text.trim s))) ∧
    (∀ vs : List String, Text.byteLength (Text.join "," vs) ≤ c.config.maxValueLength.toNat →
      (vs.flatMap tokens).length ≤ c.config.maxSetValues.toNat →
      ∃ e, c.compileItem (.oneOf name vs) = .ok e ∧
        ∀ get, (e.evaluate get = true ↔ ∃ v ∈ vs, ∃ piece ∈ Text.split ',' v,
          Text.trim piece ≠ "" ∧ get r.path = .string (Text.trim piece))) ∧
    ∀ vs : List String, (∀ v ∈ vs, Listable v) →
      Text.byteLength (Text.join "," vs) ≤ c.config.maxValueLength.toNat →
      vs.length ≤ c.config.maxSetValues.toNat →
      ∃ e, c.compileItem (.oneOf name vs) = .ok e ∧
        ∀ get, (e.evaluate get = true ↔ ∃ v ∈ vs, get r.path = .string v) := by
  refine ⟨fun s short => c.compileItem_equals resolved type short, fun vs short few => ?_,
    fun vs listable short few => ?_⟩
  · obtain ⟨e, compiled, exact⟩ := c.compileItem_oneOf resolved type short few
    refine ⟨e, compiled, fun get => (exact get).trans ?_⟩
    simp only [List.mem_flatMap, mem_tokens_iff]
    constructor
    · rintro ⟨_, ⟨v, mem, nonempty, piece, part, rfl⟩, same⟩
      exact ⟨v, mem, piece, part, nonempty, same⟩
    · rintro ⟨v, mem, piece, part, nonempty, same⟩
      exact ⟨_, ⟨v, mem, nonempty, piece, part, rfl⟩, same⟩
  · have tokens := flatMap_tokens listable
    have exact := c.compileItem_oneOf resolved type short (tokens.symm ▸ few)
    rwa [tokens] at exact

theorem supplierName_asked :
    (∃ e, productFilters.compileItem (.equals "supplier.NAME" "\u00a0Acme, Inc. ") = .ok e ∧
      ∀ get, (e.evaluate get = true ↔ get "Supplier.Name" = .string "Acme, Inc.")) ∧
    ∃ e, productFilters.compileItem (.oneOf "supplier.NAME" ["Acme", "Tea & Co"]) = .ok e ∧
      ∀ get, (e.evaluate get = true ↔
        ∃ v ∈ ["Acme", "Tea & Co"], get "Supplier.Name" = .string v) := by
  have resolved : productFilters.resolveField? "supplier.NAME" =
      some ⟨"Supplier.Name", .required "Name" .string, true⟩ := by
    rfl
  obtain ⟨equals, -, oneOf⟩ := productFilters.string_items_exact resolved rfl
  have trimmed : Text.trim "\u00a0Acme, Inc. " = "Acme, Inc." := by decide +kernel
  refine ⟨trimmed ▸ equals _ (by decide +kernel),
    oneOf _ ?_ (by decide +kernel) (by decide +kernel)⟩
  simp only [Listable]
  decide +kernel

-- A string with a blank before it is within all limits, and so is one with a comma in it.
theorem strings_not_asked_as_given :
    productFilters.resolveField? "Name" = some ⟨"Name", .required "Name" .string, true⟩ ∧
      Text.byteLength " tea" ≤ productFilters.config.maxValueLength.toNat ∧
      (¬ ∃ e, productFilters.compileItem (.equals "Name" " tea") = .ok e ∧
        ∀ get, (e.evaluate get = true ↔ get "Name" = .string " tea")) ∧
      Text.byteLength "salt,pepper" ≤ productFilters.config.maxValueLength.toNat ∧
      ¬ ∃ e, productFilters.compileItem (.oneOf "Name" ["salt,pepper"]) = .ok e ∧
        ∀ get, (e.evaluate get = true ↔ ∃ v ∈ ["salt,pepper"], get "Name" = .string v) := by
  have resolved : productFilters.resolveField? "Name" =
      some ⟨"Name", .required "Name" .string, true⟩ := by
    rfl
  have short : Text.byteLength " tea" ≤ productFilters.config.maxValueLength.toNat := by
    decide +kernel
  have short' : Text.byteLength "salt,pepper" ≤ productFilters.config.maxValueLength.toNat := by
    decide +kernel
  refine ⟨resolved, short, ?_, short', ?_⟩
  · rintro ⟨e, compiled, given⟩
    obtain ⟨e', compiled', trimmed⟩ := productFilters.compileItem_equals resolved rfl short
    obtain rfl : e = e' := Except.ok.inj (compiled.symm.trans compiled')
    have both := ((trimmed fun _ => .string " tea").symm.trans (given _)).2 rfl
    exact absurd both (by decide +kernel)
  · rintro ⟨e, compiled, given⟩
    obtain ⟨e', compiled', divided⟩ : ∃ e,
        productFilters.compileItem (.oneOf "Name" ["salt,pepper"]) = .ok e ∧
          ∀ get, (e.evaluate get = true ↔
            ∃ token ∈ ["salt,pepper"].flatMap tokens, get "Name" = .string token) :=
      productFilters.compileItem_oneOf resolved rfl short' (by decide +kernel)
    obtain rfl : e = e' := Except.ok.inj (compiled.symm.trans compiled')
    have both := ((divided fun _ => .string "salt,pepper").symm.trans (given _)).2
      ⟨_, List.mem_singleton_self _, rfl⟩
    exact absurd both (by decide +kernel)

end FilterCompiler

end EntityQuery
