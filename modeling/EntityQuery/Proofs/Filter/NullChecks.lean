import EntityQuery.Entity
import EntityQuery.Proofs.Filter.Whitelist

set_option autoImplicit false

namespace EntityQuery

variable {ι α β : Type}

theorem isFieldName_qualified {name tail : String} (head : isFieldName name = true)
    (rest : isFieldName tail = true) : isFieldName (name ++ "." ++ tail) = true := by
  have chars : (name ++ "." ++ tail).toList = name.toList ++ '.' :: tail.toList := by simp
  rw [isFieldName] at head rest ⊢
  rw [chars]
  cases first : name.toList with
  | nil => simp [first] at head
  | cons c cs =>
    cases second : tail.toList with
    | nil => simp [second] at rest
    | cons d ds =>
      simp only [first, second, Bool.and_eq_true] at head rest
      simp_all [Char.isAlphanum]

theorem Value.isNull_iff {v : Value} : v.isNull = true ↔ v = .null := by
  cases v <;> simp [isNull]

def FieldType.isKindOf : FieldType ι → Value → Bool
  | string, .string _ => true
  | integer, .integer _ => true
  | float, .float _ => true
  | boolean, .bool _ => true
  | dateTime, .dateTime _ => true
  | date, .date _ => true
  | uuid, .uuid _ => true
  | enumeration _, .string _ => true
  | _, _ => false

def ResolvedField.Admits (r : ResolvedField ι) (v : Value) : Prop :=
  r.descriptor.type.isKindOf v = true ∨ r.nullable = true ∧ v = .null

theorem ResolvedField.Admits.isNull_eq_false {r : ResolvedField ι} {v : Value} (h : r.Admits v)
    (required : r.nullable = false) : v.isNull = false := by
  obtain kind | ⟨nullable, -⟩ := h
  next =>
    cases v with
    | null => cases type : r.descriptor.type <;> simp [type, FieldType.isKindOf] at kind
    | _ => rfl
  next => simp [required] at nullable

namespace Entity

structure ReadsAsDeclared (E : Entity ι α) : Prop where
  nameable : ∀ path r, E.schema.resolvePath? path = some r → isFieldName path = true
  admits : ∀ row path r, E.schema.resolvePath? path = some r → r.Admits (E.value row r.path)

structure Nests (E : Entity ι α) (f : FieldDescriptor ι) (F : Entity ι β) (part : α → Option β) :
    Prop where
  type : f.type = .object F.schema.root
  schema : F.schema = E.schema.seenFrom F.schema.root
  own : ∀ row, E.value row f.name = .null
  below : ∀ row path, E.value row (f.name ++ "." ++ path) =
    ((part row).map fun inner => F.value inner path).getD .null

inductive ReadsField (E : Entity ι α) (f : FieldDescriptor ι) : Prop where
  | plain (scalar : f.type.isObject = false)
    (admits : ∀ row, ResolvedField.Admits ⟨f.name, f, f.canBeNull⟩ (E.value row f.name))
  | nested {β : Type} (F : Entity ι β) (part : α → Option β) (nests : E.Nests f F part)
    (reads : F.ReadsAsDeclared)

variable {E : Entity ι α} {f : FieldDescriptor ι}

theorem Nests.canBeNull {F : Entity ι β} {part : α → Option β} (nests : E.Nests f F part) :
    f.canBeNull = true := by
  rw [FieldDescriptor.canBeNull, nests.type]
  exact Bool.or_true _

theorem ReadsField.own (reads : E.ReadsField f) (row : α) :
    ResolvedField.Admits ⟨f.name, f, f.canBeNull⟩ (E.value row f.name) := by
  cases reads with
  | plain _ admits => exact admits row
  | nested F part nests _ => exact .inr ⟨nests.canBeNull, nests.own row⟩

theorem ReadsField.below (reads : E.ReadsField f) {target : ι} (type : f.type = .object target)
    {rest : String} {tail : ResolvedField ι}
    (resolved : (E.schema.seenFrom target).resolvePath? rest = some tail) :
    isFieldName rest = true ∧ ∀ row, ResolvedField.Admits
      ⟨f.name ++ "." ++ tail.path, tail.descriptor, f.canBeNull || tail.nullable⟩
      (E.value row (f.name ++ "." ++ tail.path)) := by
  cases reads with
  | plain scalar => simp [type, FieldType.isObject] at scalar
  | nested F part nests reads =>
    obtain rfl : target = F.schema.root := FieldType.object.inj (type.symm.trans nests.type)
    rw [← nests.schema] at resolved
    refine ⟨reads.nameable rest tail resolved, fun row => ?_⟩
    rw [nests.below]
    -- Nothing is nested here, or the value is that of the nested entity.
    cases part row with
    | none => exact .inr ⟨by simp [nests.canBeNull], rfl⟩
    | some inner =>
      obtain kind | ⟨-, null⟩ := reads.admits inner rest tail resolved
      next => exact .inl kind
      next => exact .inr ⟨by simp [nests.canBeNull], null⟩

theorem ReadsAsDeclared.of_fields
    (names : ∀ f ∈ E.schema.entity.fields, isFieldName f.name = true)
    (fields : ∀ f ∈ E.schema.entity.fields, E.ReadsField f) : E.ReadsAsDeclared where
  nameable path r resolved := by
    obtain ⟨-, fold⟩ := Schema.resolvePath?_canonical resolved
    rw [← isFieldName_of_foldAscii_eq fold]
    obtain ⟨f, mem, rfl⟩ | ⟨f, mem, target, type, rest, tail, below, rfl⟩ :=
      Schema.resolvePath?_cases resolved
    next => exact names f mem
    next =>
      obtain ⟨fixed, -⟩ := Schema.resolvePath?_canonical below
      exact isFieldName_qualified (names f mem) ((fields f mem).below type fixed).1
  admits row path r resolved := by
    obtain ⟨f, mem, rfl⟩ | ⟨f, mem, target, type, rest, tail, below, rfl⟩ :=
      Schema.resolvePath?_cases resolved
    next => exact (fields f mem).own row
    next => exact ((fields f mem).below type below).2 row

def Finds (E : Entity ι α) (op : FilterOperator) (path : String) (rows : α → Prop) : Prop :=
  ∀ (config : QueryConfig) (item : FilterItem),
    Text.foldAscii item.field = Text.foldAscii path →
    FilterOperator.resolve? item.operator = some op →
    ∃ e, FilterCompiler.compileItem ⟨E.schema, config⟩ item = .ok e ∧
      ∀ row, e.evaluate (E.value row) = true ↔ rows row

theorem Finds.congr {op : FilterOperator} {path : String} {rows rows' : α → Prop}
    (found : E.Finds op path rows) (same : ∀ row, rows row ↔ rows' row) :
    E.Finds op path rows' := by
  intro config item spelled asked
  obtain ⟨e, compiled, holds⟩ := found config item spelled asked
  exact ⟨e, compiled, fun row => (holds row).trans (same row)⟩

end Entity

def FilterOperator.nullCheck (negated : Bool) : FilterOperator :=
  if negated then .isNotNull else .isNull

namespace FilterCompiler

variable (c : FilterCompiler ι) {r : ResolvedField ι} {negated : Bool}

theorem compileItem_nullCheck {item : FilterItem} (found : c.resolveField? item.field = some r)
    (asked : FilterOperator.resolve? item.operator = some (.nullCheck negated)) :
    c.compileItem item = .ok (compileNull r negated) := by
  rw [c.compileItem_of_resolve asked, compileResolved, found]
  cases negated <;> rfl

theorem evaluate_compileNull {get : String → Value} (admits : r.Admits (get r.path)) :
    (compileNull r negated).evaluate get = ((get r.path).isNull != negated) := by
  rw [compileNull]
  split
  next => simp only [Expr.evaluate]
  next required =>
    rw [admits.isNull_eq_false (by simpa using required), Expr.evaluate_const, Bool.false_bne]

end FilterCompiler

namespace Entity

variable {E : Entity ι α}

structure NullChecksRead (E : Entity ι α) : Prop where
  admits : ∀ row path r, E.schema.resolvePath? path = some r → r.Admits (E.value row r.path)
  isNull : ∀ path r, E.schema.resolvePath? path = some r →
    E.Finds .isNull path fun row => E.value row r.path = .null
  isNotNull : ∀ path r, E.schema.resolvePath? path = some r →
    E.Finds .isNotNull path fun row => E.value row r.path ≠ .null

theorem ReadsAsDeclared.finds_nullCheck (reads : E.ReadsAsDeclared) {path : String}
    {r : ResolvedField ι} (resolved : E.schema.resolvePath? path = some r) (negated : Bool) :
    E.Finds (.nullCheck negated) path
      fun row => ((E.value row r.path).isNull != negated) = true := by
  intro config item spelled asked
  have known : E.schema.resolvePath? item.field = some r :=
    (E.schema.resolvePath?_congr spelled).trans resolved
  have found : FilterCompiler.resolveField? ⟨E.schema, config⟩ item.field = some r := by
    rw [FilterCompiler.resolveField?, if_pos (reads.nameable _ _ known), known]
  refine ⟨_, FilterCompiler.compileItem_nullCheck _ found asked, fun row => ?_⟩
  rw [FilterCompiler.evaluate_compileNull (reads.admits row path r resolved)]

theorem ReadsAsDeclared.nullChecksRead (reads : E.ReadsAsDeclared) : E.NullChecksRead where
  admits := reads.admits
  isNull path r resolved := (reads.finds_nullCheck resolved false).congr fun row => by
    simp [Value.isNull_iff]
  isNotNull path r resolved := (reads.finds_nullCheck resolved true).congr fun row => by
    simp [← Value.isNull_iff]

/-- A null check does not see whether the nested entity is there. One on a field below it does, if
that field is never null in the nested entity. -/
structure OverlooksNested (E : Entity ι α) (object : String) (F : Entity ι β)
    (part : α → Option β) : Prop where
  isNull : E.Finds .isNull object fun _ => True
  isNotNull : E.Finds .isNotNull object fun _ => False
  isNullBelow : ∀ g ∈ F.schema.entity.fields, g.nullable = false →
    E.Finds .isNull (object ++ "." ++ g.name) fun row => part row = none
  isNotNullBelow : ∀ g ∈ F.schema.entity.fields, g.nullable = false →
    E.Finds .isNotNull (object ++ "." ++ g.name) fun row => part row ≠ none

def SeesNested (E : Entity ι α) (object : String) (part : α → Option β) (row : α) : Prop :=
  ∀ (negated : Bool) (config : QueryConfig) (item : FilterItem),
    Text.foldAscii item.field = Text.foldAscii object →
    FilterOperator.resolve? item.operator = some (.nullCheck negated) →
    ∃ e, FilterCompiler.compileItem ⟨E.schema, config⟩ item = .ok e ∧
      (e.evaluate (E.value row) = true ↔ ((part row).isNone != negated) = true)

theorem OverlooksNested.seesNested_iff {object : String} {F : Entity ι β} {part : α → Option β}
    (overlooks : E.OverlooksNested object F part) (row : α) :
    E.SeesNested object part row ↔ part row = none := by
  constructor
  · intro sees
    let item : FilterItem := .isNull object
    have asked : FilterOperator.resolve? item.operator = some .isNull :=
      FilterOperator.resolve?_name .isNull
    obtain ⟨e, compiled, all⟩ := overlooks.isNull .default item rfl asked
    obtain ⟨_, again, seen⟩ := sees false .default item rfl asked
    obtain rfl := Except.ok.inj (compiled.symm.trans again)
    simpa using seen.1 ((all row).2 trivial)
  · intro absent negated config item spelled asked
    cases negated with
    | false =>
      obtain ⟨e, compiled, all⟩ := overlooks.isNull config item spelled asked
      exact ⟨e, compiled, (all row).trans (by simp [absent])⟩
    | true =>
      obtain ⟨e, compiled, none⟩ := overlooks.isNotNull config item spelled asked
      exact ⟨e, compiled, (none row).trans (by simp [absent])⟩

theorem Nests.below_eq_null_iff {f : FieldDescriptor ι} {F : Entity ι β} {part : α → Option β}
    (nests : E.Nests f F part) {name : String} (always : ∀ inner, F.value inner name ≠ .null)
    (row : α) : E.value row (f.name ++ "." ++ name) = .null ↔ part row = none := by
  rw [nests.below]
  cases part row with
  | none => exact iff_of_true rfl rfl
  | some inner => exact iff_of_false (always inner) nofun

theorem Nests.overlooksNested {f : FieldDescriptor ι} {F : Entity ι β} {part : α → Option β}
    (nests : E.Nests f F part) (checks : E.NullChecksRead)
    (own : E.schema.canonicalPath? f.name = some f.name)
    (below : ∀ g ∈ F.schema.entity.fields,
      E.schema.canonicalPath? (f.name ++ "." ++ g.name) = some (f.name ++ "." ++ g.name))
    (always : ∀ inner, ∀ g ∈ F.schema.entity.fields, g.nullable = false →
      F.value inner g.name ≠ .null) :
    E.OverlooksNested f.name F part := by
  obtain ⟨r, resolved, declared⟩ := Option.map_eq_some_iff.1 own
  have null : ∀ row, E.value row r.path = .null := fun row => declared ▸ nests.own row
  refine ⟨?_, ?_, fun g mem required => ?_, fun g mem required => ?_⟩
  · exact (checks.isNull _ r resolved).congr fun row => by simp [null]
  · exact (checks.isNotNull _ r resolved).congr fun row => by simp [null]
  all_goals
    obtain ⟨r, resolved, declared⟩ := Option.map_eq_some_iff.1 (below g mem)
    have below := nests.below_eq_null_iff fun inner => always inner g mem required
    rw [← declared] at below
  · exact (checks.isNull _ r resolved).congr below
  · exact (checks.isNotNull _ r resolved).congr fun row => (below row).not

end Entity

end EntityQuery
