import EntityQuery.Proofs.Schema.Path
import EntityQuery.Sample.Record

set_option autoImplicit false

namespace EntityQuery

variable {ι : Type}

theorem qualify_top (name : String) : qualify "" name = name :=
  if_pos rfl

theorem qualify_qualify (parent tail : String) {name : String} (h : name ≠ "") :
    qualify (qualify parent name) tail = qualify parent (name ++ "." ++ tail) := by
  rw [qualify, qualify, qualify]
  by_cases top : parent = ""
  next => simp only [if_pos top, if_neg h]
  next =>
    have below : parent ++ "." ++ name ≠ "" := by simp [h]
    rw [if_neg top, if_neg below, if_neg top]
    simp only [String.append_assoc]

theorem qualify_inj {parent name name' : String} (h : qualify parent name = qualify parent name') :
    name = name' := by
  rw [qualify, qualify] at h
  by_cases top : parent = ""
  next => rwa [if_pos top, if_pos top] at h
  next =>
    rw [if_neg top, if_neg top] at h
    simpa using h

namespace Schema

variable {s : Schema ι} {f : FieldDescriptor ι} {r : ResolvedField ι}
  {family : ι → EntitySchema ι} {depth : Nat} {parent path : String} {e : ι}

def stringPathsAt (family : ι → EntitySchema ι) (depth : Nat) (parent : String)
    (f : FieldDescriptor ι) : List String :=
  match f.type, depth with
  | .string, _ => [qualify parent f.name]
  | .object target, depth + 1 => stringPaths family depth (qualify parent f.name) target
  | _, _ => []

theorem stringPaths_eq (family : ι → EntitySchema ι) (depth : Nat) (parent : String) (e : ι) :
    stringPaths family depth parent e =
      (family e).fields.flatMap (stringPathsAt family depth parent) := by
  -- The depth is matched below the type, so the recursion unfolds for each of its constructors.
  cases depth <;> delta stringPaths stringPathsAt <;>
    exact congrArg (List.flatMap · _) (funext fun f => by cases f.type <;> rfl)

theorem mem_stringPathsAt_iff :
    path ∈ stringPathsAt family depth parent f ↔
      f.type = .string ∧ path = qualify parent f.name ∨
        ∃ below target, depth = below + 1 ∧ f.type = .object target ∧
          path ∈ stringPaths family below (qualify parent f.name) target := by
  cases type : f.type <;> cases depth <;> simp [stringPathsAt, type]

theorem mem_stringPaths_iff :
    path ∈ stringPaths family depth parent e ↔
      ∃ f ∈ (family e).fields, path ∈ stringPathsAt family depth parent f := by
  rw [stringPaths_eq, List.mem_flatMap]

theorem stringPaths_resolve (named : s.WellNamed)
    (h : path ∈ stringPaths s.family depth parent s.root) :
    ∃ r, path = qualify parent r.path ∧ r.descriptor.type = .string ∧
      resolveSegments? s.family s.root (Text.split '.' r.path) = some r ∧
      (Text.split '.' r.path).length ≤ depth + 1 := by
  -- The parent grows on the way down, while the path that resolves is only the rest.
  induction depth using Nat.strongRecOn generalizing s parent path with
  | ind depth ih =>
    obtain ⟨f, mem, inside⟩ := mem_stringPaths_iff.1 h
    obtain ⟨type, rfl⟩ | ⟨below, target, rfl, type, inner⟩ := mem_stringPathsAt_iff.1 inside
    next =>
      obtain ⟨resolved, length⟩ := resolve_own (named.entity.spells mem)
      refine ⟨⟨f.name, f, f.canBeNull⟩, rfl, type, resolved, ?_⟩
      dsimp only
      omega
    next =>
      obtain ⟨tail, rfl, string, resolvedTail, lengthTail⟩ :=
        ih below (Nat.lt_succ_self below) (named.nested mem type) inner
      obtain ⟨resolved, length⟩ := resolve_nested (named.entity.spells mem) type resolvedTail
      refine ⟨⟨f.name ++ "." ++ tail.path, tail.descriptor, f.canBeNull || tail.nullable⟩,
        ?_, string, resolved, ?_⟩
      · exact qualify_qualify parent tail.path (named.entity.nonempty f mem)
      · dsimp only
        omega

theorem stringFields_resolve (named : s.WellNamed) (h : path ∈ s.stringFields) :
    ∃ r, s.resolvePath? path = some r ∧ r.path = path ∧ r.descriptor.type = .string := by
  obtain ⟨r, rfl, type, resolved, length⟩ := stringPaths_resolve named h
  rw [qualify_top]
  exact ⟨r, by rw [resolvePath?, if_pos length, resolved], rfl, type⟩

theorem mem_stringPaths_of_resolve (named : s.WellNamed) {segments : List String}
    (resolved : resolveSegments? s.family s.root segments = some r)
    (type : r.descriptor.type = .string) (short : segments.length ≤ depth + 1) :
    qualify parent r.path ∈ stringPaths s.family depth parent s.root := by
  induction segments generalizing s r depth parent with
  | nil => cases resolved
  | cons segment rest ih =>
    obtain ⟨-, f, found, last | inner⟩ := resolveSegments?_cons_iff.1 resolved
    all_goals
      have mem := EntitySchema.mem_of_field? found
      refine mem_stringPaths_iff.2 ⟨f, mem, mem_stringPathsAt_iff.2 ?_⟩
    next =>
      obtain ⟨rfl, rfl⟩ := last
      exact .inl ⟨type, rfl⟩
    next =>
      obtain ⟨more, target, tail, object, resolvedTail, rfl⟩ := inner
      have below : 0 < rest.length := List.length_pos_iff.2 more
      rw [List.length_cons] at short
      obtain ⟨depth, rfl⟩ : ∃ below, depth = below + 1 := ⟨depth - 1, by omega⟩
      have listed : qualify (qualify parent f.name) tail.path ∈
          stringPaths s.family depth (qualify parent f.name) target :=
        ih (named.nested mem object) resolvedTail type (by omega)
      rw [qualify_qualify _ _ (named.entity.nonempty f mem)] at listed
      exact .inr ⟨depth, target, rfl, object, listed⟩

theorem mem_stringFields_of_resolve (named : s.WellNamed) (resolved : s.resolvePath? path = some r)
    (type : r.descriptor.type = .string) : r.path ∈ s.stringFields := by
  rw [resolvePath?] at resolved
  split at resolved
  next short =>
    have listed : qualify "" r.path ∈ s.stringFields :=
      mem_stringPaths_of_resolve named resolved type short
    rwa [qualify_top] at listed
  next => cases resolved

theorem head_of_mem_stringPathsAt (named : s.WellNamed) (mem : f ∈ s.entity.fields)
    (h : path ∈ stringPathsAt s.family depth parent f) :
    ∃ tail, path = qualify parent tail ∧ (Text.split '.' tail).head? = some f.name := by
  have dotFree := named.entity.dotFree f mem
  obtain ⟨-, rfl⟩ | ⟨below, target, rfl, type, inner⟩ := mem_stringPathsAt_iff.1 h
  next => exact ⟨f.name, rfl, by rw [Text.split_of_notMem dotFree, List.head?_cons]⟩
  next =>
    obtain ⟨r, rfl, -, -, -⟩ := stringPaths_resolve (named.nested mem type) inner
    have split : Text.split '.' (f.name ++ "." ++ r.path) = f.name :: Text.split '.' r.path :=
      Text.split_append_of_notMem dotFree r.path
    refine ⟨f.name ++ "." ++ r.path, ?_, by rw [split, List.head?_cons]⟩
    exact qualify_qualify parent r.path (named.entity.nonempty f mem)

theorem stringPathsAt_disjoint (named : s.WellNamed) {g : FieldDescriptor ι}
    (memF : f ∈ s.entity.fields) (memG : g ∈ s.entity.fields)
    (apart : Text.foldAscii f.name ≠ Text.foldAscii g.name) :
    List.Disjoint (stringPathsAt s.family depth parent f) (stringPathsAt s.family depth parent g) := by
  intro path inF inG
  obtain ⟨tail, rfl, headF⟩ := head_of_mem_stringPathsAt named memF inF
  obtain ⟨tail', same, headG⟩ := head_of_mem_stringPathsAt named memG inG
  rw [qualify_inj same, headG] at headF
  exact apart (congrArg Text.foldAscii (Option.some.inj headF).symm)

theorem stringPaths_nodup (named : s.WellNamed) :
    (stringPaths s.family depth parent s.root).Nodup := by
  induction depth using Nat.strongRecOn generalizing s parent with
  | ind depth ih =>
    rw [stringPaths_eq, List.nodup_flatMap]
    constructor
    · intro f mem
      simp only [stringPathsAt]
      split
      next => exact List.nodup_singleton _
      next target below type => exact ih below (Nat.lt_succ_self below) (named.nested mem type)
      next => exact List.nodup_nil
    · have distinct := List.pairwise_map.1 named.entity.distinct
      exact distinct.imp_of_mem fun memF memG => stringPathsAt_disjoint named memF memG

/-- The string fields that are searched are those that a dotted path can name, in declared spelling
and each of them once, however the entities are nested in each other. -/
theorem stringFields_exact (named : s.WellNamed) :
    s.stringFields.Nodup ∧
      (∀ path ∈ s.stringFields,
        ∃ r, s.resolvePath? path = some r ∧ r.path = path ∧ r.descriptor.type = .string) ∧
      ∀ path, path ∈ s.stringFields ↔
        ∃ text r, s.resolvePath? text = some r ∧ r.descriptor.type = .string ∧ r.path = path := by
  refine ⟨stringPaths_nodup named, fun path mem => stringFields_resolve named mem, fun path => ?_⟩
  constructor
  · intro mem
    obtain ⟨r, resolved, declared, type⟩ := stringFields_resolve named mem
    exact ⟨path, r, resolved, type, declared⟩
  · rintro ⟨text, r, resolved, type, rfl⟩
    exact mem_stringFields_of_resolve named resolved type

section

open Sample

-- A node holds a node, so only the bound on the depth ends the list of its string fields.
theorem nodes_stringFields :
    nodes.schema.WellNamed ∧ nodes.schema.stringFields.Nodup ∧
      "Parent.Parent.Parent.Parent.Note" ∈ nodes.schema.stringFields ∧
      "Parent.Parent.Parent.Parent.Parent.Note" ∉ nodes.schema.stringFields := by
  have named : nodes.schema.WellNamed := fun kind _ => family_wellNamed kind
  obtain ⟨nodup, resolves, nameable⟩ := stringFields_exact named
  refine ⟨named, nodup, (nameable _).2 ?_, fun listed => ?_⟩
  · have spelled : nodes.schema.resolvePath? "parent.PARENT.Parent.parent.note" =
        some ⟨"Parent.Parent.Parent.Parent.Note", .optional "Note" .string, true⟩ := by
      rfl
    exact ⟨_, _, spelled, rfl, rfl⟩
  · have deeper : nodes.schema.resolvePath? "Parent.Parent.Parent.Parent.Parent.Note" = none := by
      decide +kernel
    obtain ⟨r, resolved, -⟩ := resolves _ listed
    rw [deeper] at resolved
    cases resolved

end

end Schema

end EntityQuery
