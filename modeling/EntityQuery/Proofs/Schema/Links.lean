import EntityQuery.Proofs.Text.Basic
import EntityQuery.Schema.Path

set_option autoImplicit false

namespace EntityQuery

variable {ι : Type}

namespace EntitySchema

variable {e : EntitySchema ι} {d : RelationDescriptor ι} {name : String}

theorem mem_of_relation? (h : e.relation? name = some d) : d ∈ e.relations :=
  List.mem_of_find?_eq_some h

theorem foldAscii_of_relation? (h : e.relation? name = some d) :
    Text.foldAscii d.name = Text.foldAscii name := by
  simpa [Text.sameIgnoringAsciiCase] using List.find?_some h

theorem relation?_declared (h : e.relation? name = some d) : e.relation? d.name = some d := by
  have same := foldAscii_of_relation? h
  rw [← h, relation?, relation?]
  simp only [Text.sameIgnoringAsciiCase, same]

end EntitySchema

namespace Schema

variable {family : ι → EntitySchema ι} {e : ι} {segment : String} {rest : List String}
  {links : List (RelationDescriptor ι)}

theorem resolveLinks?_cons_iff :
    resolveLinks? family e (segment :: rest) = some links ↔
      segment ≠ "" ∧ ∃ d tail, (family e).relation? segment = some d ∧
        resolveLinks? family d.target rest = some tail ∧ links = d :: tail := by
  rw [resolveLinks?]
  by_cases blank : segment = ""
  next => simp [blank]
  next =>
    cases found : (family e).relation? segment with
    | none => simp [blank]
    | some d => simp [blank, Option.map_eq_some_iff, eq_comm (b := links)]

theorem resolveLinks?_declared {segments : List String}
    (h : resolveLinks? family e segments = some links) :
    resolveLinks? family e (links.map RelationDescriptor.name) = some links := by
  induction segments generalizing e links with
  | nil =>
    cases h
    rfl
  | cons segment rest ih =>
    obtain ⟨spelled, d, tail, found, resolved, rfl⟩ := resolveLinks?_cons_iff.1 h
    have fold := EntitySchema.foldAscii_of_relation? found
    have named : d.name ≠ "" := by
      intro blank
      rw [blank] at fold
      exact spelled (Text.eq_empty_of_foldAscii_eq fold.symm)
    exact resolveLinks?_cons_iff.2
      ⟨named, d, tail, EntitySchema.relation?_declared found, ih resolved, rfl⟩

theorem resolveLinks?_notMem {sep : Char} (letterless : sep.isAlpha = false)
    {segments : List String} (apart : ∀ segment ∈ segments, sep ∉ segment.toList)
    (h : resolveLinks? family e segments = some links) : ∀ d ∈ links, sep ∉ d.name.toList := by
  induction segments generalizing e links with
  | nil =>
    cases h
    simp
  | cons segment rest ih =>
    obtain ⟨-, d, tail, found, resolved, rfl⟩ := resolveLinks?_cons_iff.1 h
    obtain ⟨first, later⟩ := List.forall_mem_cons.1 apart
    refine List.forall_mem_cons.2 ⟨fun inside => first ?_, ih later resolved⟩
    exact Text.mem_of_foldAscii_eq (EntitySchema.foldAscii_of_relation? found) letterless inside

theorem resolveRelations?_declared {s : Schema ι} {path : String}
    (h : s.resolveRelations? path = some links) :
    s.resolveRelations? (Text.join "." (links.map RelationDescriptor.name)) = some links := by
  have apart := resolveLinks?_notMem (by decide)
    (fun segment mem => Text.notMem_of_mem_split mem) h
  have nonempty : links.map RelationDescriptor.name ≠ [] := by
    -- There is a segment, and no relation resolves to nothing.
    cases pieces : Text.split '.' path with
    | nil => simp [Text.split, Text.splitChars_ne_nil] at pieces
    | cons segment rest =>
      rw [resolveRelations?, pieces] at h
      obtain ⟨-, d, tail, -, -, rfl⟩ := resolveLinks?_cons_iff.1 h
      simp
  have split : Text.split '.' (Text.join "." (links.map RelationDescriptor.name)) =
      links.map RelationDescriptor.name :=
    Text.split_join_of_notMem nonempty (List.forall_mem_map.2 apart)
  rw [resolveRelations?, split]
  exact resolveLinks?_declared h

structure Navigable (family : ι → EntitySchema ι) : Prop where
  distinct : ∀ e e', (family e).name = (family e').name → e = e'
  nonempty : ∀ e, ∀ d ∈ (family e).relations, d.name ≠ ""
  dotFree : ∀ e, ∀ d ∈ (family e).relations, '.' ∉ d.name.toList

variable {d : RelationDescriptor ι} {name : String}

theorem Navigable.nonempty_of_relation? (navigable : Navigable family)
    (h : (family e).relation? name = some d) : name ≠ "" := by
  intro blank
  subst blank
  have fold := EntitySchema.foldAscii_of_relation? h
  exact navigable.nonempty e d (EntitySchema.mem_of_relation? h)
    (Text.eq_empty_of_foldAscii_eq fold)

theorem Navigable.dotFree_of_relation? (navigable : Navigable family)
    (h : (family e).relation? name = some d) : '.' ∉ name.toList := by
  intro inside
  have fold := EntitySchema.foldAscii_of_relation? h
  exact navigable.dotFree e d (EntitySchema.mem_of_relation? h)
    (Text.mem_of_foldAscii_eq fold.symm (by decide) inside)

theorem Navigable.resolve_own (navigable : Navigable family)
    (h : (family e).relation? name = some d) :
    resolveLinks? family e (Text.split '.' name) = some [d] := by
  rw [Text.split_of_notMem (navigable.dotFree_of_relation? h)]
  exact resolveLinks?_cons_iff.2 ⟨navigable.nonempty_of_relation? h, d, [], h, rfl, rfl⟩

theorem Navigable.resolve_below (navigable : Navigable family)
    (h : (family e).relation? name = some d) {path : String}
    (below : resolveLinks? family d.target (Text.split '.' path) = some links) :
    resolveLinks? family e (Text.split '.' (name ++ "." ++ path)) = some (d :: links) := by
  have split : Text.split '.' (name ++ "." ++ path) = name :: Text.split '.' path :=
    Text.split_append_of_notMem (navigable.dotFree_of_relation? h) path
  rw [split]
  exact resolveLinks?_cons_iff.2 ⟨navigable.nonempty_of_relation? h, d, links, h, below, rfl⟩

end Schema

end EntityQuery
