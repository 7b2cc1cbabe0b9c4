import EntityQuery.Proofs.Text.Basic
import EntityQuery.Sample.Family
import EntityQuery.Schema.Path
import Mathlib.Data.List.Nodup
import Mathlib.Logic.Relation

set_option autoImplicit false

namespace EntityQuery

variable {ι : Type}

namespace EntitySchema

variable {e : EntitySchema ι} {f : FieldDescriptor ι} {name : String}

structure WellNamed (e : EntitySchema ι) : Prop where
  nonempty : ∀ f ∈ e.fields, f.name ≠ ""
  dotFree : ∀ f ∈ e.fields, '.' ∉ f.name.toList
  distinct : (e.fields.map fun f => Text.foldAscii f.name).Nodup

structure Spells (e : EntitySchema ι) (f : FieldDescriptor ι) : Prop where
  found : e.field? f.name = some f
  nonempty : f.name ≠ ""
  dotFree : '.' ∉ f.name.toList

theorem mem_of_field? (h : e.field? name = some f) : f ∈ e.fields :=
  List.mem_of_find?_eq_some h

theorem foldAscii_of_field? (h : e.field? name = some f) :
    Text.foldAscii f.name = Text.foldAscii name := by
  simpa [Text.sameIgnoringAsciiCase] using List.find?_some h

theorem field?_declared (h : e.field? name = some f) : e.field? f.name = some f := by
  have same := foldAscii_of_field? h
  rw [← h, field?, field?]
  simp only [Text.sameIgnoringAsciiCase, same]

theorem field?_congr (e : EntitySchema ι) {name name' : String}
    (h : Text.foldAscii name = Text.foldAscii name') : e.field? name = e.field? name' := by
  rw [field?, field?]
  simp only [Text.sameIgnoringAsciiCase, h]

-- A field with an odd name, or with the name of an earlier one, is not found by any segment.
theorem spells_of_field? (h : e.field? name = some f) (nonempty : name ≠ "")
    (dotFree : '.' ∉ name.toList) : e.Spells f where
  found := field?_declared h
  nonempty blank := by
    have fold := foldAscii_of_field? h
    rw [blank] at fold
    exact nonempty (Text.eq_empty_of_foldAscii_eq fold.symm)
  dotFree inside := dotFree (Text.mem_of_foldAscii_eq (foldAscii_of_field? h) (by decide) inside)

theorem WellNamed.spells (named : e.WellNamed) (h : f ∈ e.fields) : e.Spells f where
  found := by
    have found : (e.field? f.name).isSome = true :=
      List.find?_isSome.2 ⟨f, h, by simp [Text.sameIgnoringAsciiCase]⟩
    obtain ⟨g, first⟩ := Option.isSome_iff_exists.1 found
    have same := List.inj_on_of_nodup_map named.distinct (mem_of_field? first) h
      (foldAscii_of_field? first)
    rw [first, same]
  nonempty := named.nonempty f h
  dotFree := named.dotFree f h

end EntitySchema

namespace Schema

variable {s : Schema ι} {r : ResolvedField ι}

def Nests (family : ι → EntitySchema ι) (e nested : ι) : Prop :=
  ∃ f ∈ (family e).fields, f.type = .object nested

def WellNamed (s : Schema ι) : Prop :=
  ∀ e, Relation.ReflTransGen (Nests s.family) s.root e → (s.family e).WellNamed

theorem WellNamed.entity (named : s.WellNamed) : s.entity.WellNamed :=
  named s.root .refl

theorem WellNamed.nested (named : s.WellNamed) {f : FieldDescriptor ι} {target : ι}
    (mem : f ∈ s.entity.fields) (type : f.type = .object target) : (s.seenFrom target).WellNamed :=
  fun e reached => named e (.head ⟨f, mem, type⟩ reached)

theorem resolveSegments?_cons_iff {family : ι → EntitySchema ι} {e : ι} {segment : String}
    {rest : List String} :
    resolveSegments? family e (segment :: rest) = some r ↔
      segment ≠ "" ∧ ∃ f, (family e).field? segment = some f ∧
        (rest = [] ∧ r = ⟨f.name, f, f.canBeNull⟩ ∨
          rest ≠ [] ∧ ∃ target tail, f.type = .object target ∧
            resolveSegments? family target rest = some tail ∧
            r = ⟨f.name ++ "." ++ tail.path, tail.descriptor, f.canBeNull || tail.nullable⟩) := by
  rw [resolveSegments?]
  by_cases blank : segment = ""
  next => simp [blank]
  next =>
    cases found : (family e).field? segment with
    | none => simp [blank]
    | some f =>
      cases rest with
      | nil => simp [blank, eq_comm]
      | cons next rest =>
        cases type : f.type <;> simp [blank, type, Option.map_eq_some_iff, eq_comm (b := r)]

section

variable {family : ι → EntitySchema ι} {e : ι} {f : FieldDescriptor ι}

theorem resolve_own (spelled : (family e).Spells f) :
    resolveSegments? family e (Text.split '.' f.name) = some ⟨f.name, f, f.canBeNull⟩ ∧
      (Text.split '.' f.name).length = 1 := by
  rw [Text.split_of_notMem spelled.dotFree]
  refine ⟨resolveSegments?_cons_iff.2 ?_, rfl⟩
  exact ⟨spelled.nonempty, f, spelled.found, .inl ⟨rfl, rfl⟩⟩

theorem resolve_nested (spelled : (family e).Spells f) {target : ι}
    (type : f.type = .object target) {tail : ResolvedField ι}
    (h : resolveSegments? family target (Text.split '.' tail.path) = some tail) :
    resolveSegments? family e (Text.split '.' (f.name ++ "." ++ tail.path)) =
        some ⟨f.name ++ "." ++ tail.path, tail.descriptor, f.canBeNull || tail.nullable⟩ ∧
      (Text.split '.' (f.name ++ "." ++ tail.path)).length =
        (Text.split '.' tail.path).length + 1 := by
  have split : Text.split '.' (f.name ++ "." ++ tail.path) = f.name :: Text.split '.' tail.path :=
    Text.split_append_of_notMem spelled.dotFree tail.path
  have more : Text.split '.' tail.path ≠ [] := by
    intro empty
    rw [empty] at h
    cases h
  rw [split]
  refine ⟨resolveSegments?_cons_iff.2 ?_, List.length_cons⟩
  exact ⟨spelled.nonempty, f, spelled.found, .inr ⟨more, target, tail, type, h, rfl⟩⟩

theorem resolveSegments?_canonical {segments : List String}
    (apart : ∀ segment ∈ segments, '.' ∉ segment.toList)
    (h : resolveSegments? family e segments = some r) :
    resolveSegments? family e (Text.split '.' r.path) = some r ∧
      (Text.split '.' r.path).length = segments.length ∧
      Text.foldAscii r.path = Text.foldAscii (Text.join "." segments) := by
  induction segments generalizing e r with
  | nil => cases h
  | cons segment rest ih =>
    obtain ⟨nonempty, f, found, last | inner⟩ := resolveSegments?_cons_iff.1 h
    all_goals
      obtain ⟨dotFree, later⟩ := List.forall_mem_cons.1 apart
      have spelled := EntitySchema.spells_of_field? found nonempty dotFree
      have fold := EntitySchema.foldAscii_of_field? found
    next =>
      obtain ⟨rfl, rfl⟩ := last
      obtain ⟨fixed, length⟩ := resolve_own spelled
      exact ⟨fixed, length, fold⟩
    next =>
      obtain ⟨more, target, tail, type, resolved, rfl⟩ := inner
      obtain ⟨fixedTail, lengthTail, foldTail⟩ := ih later resolved
      obtain ⟨fixed, length⟩ := resolve_nested spelled type fixedTail
      refine ⟨fixed, ?_, ?_⟩
      · rw [length, lengthTail, List.length_cons]
      · rw [Text.join_cons _ _ more]
        simp only [Text.foldAscii_append, fold, foldTail]

end

theorem resolvePath?_canonical {path : String} (h : s.resolvePath? path = some r) :
    s.resolvePath? r.path = some r ∧ Text.foldAscii r.path = Text.foldAscii path := by
  rw [resolvePath?] at h
  split at h
  next short =>
    obtain ⟨fixed, length, fold⟩ :=
      resolveSegments?_canonical (fun _ mem => Text.notMem_of_mem_split mem) h
    refine ⟨?_, ?_⟩
    · rw [resolvePath?, if_pos (by rwa [length]), fixed]
    · rw [fold]
      exact congrArg Text.foldAscii (Text.join_split '.' path)
  next => cases h

theorem resolveSegments?_congr {family : ι → EntitySchema ι} {e : ι}
    {segments segments' : List String}
    (h : segments.map Text.foldAscii = segments'.map Text.foldAscii) :
    resolveSegments? family e segments = resolveSegments? family e segments' := by
  induction segments generalizing e segments' with
  | nil => rw [List.map_eq_nil_iff.1 h.symm]
  | cons segment rest ih =>
    cases segments' with
    | nil => cases h
    | cons segment' rest' =>
      obtain ⟨first, later⟩ := List.cons_eq_cons.1 h
      have blank : segment = "" ↔ segment' = "" := by
        constructor
        · rintro rfl
          exact Text.eq_empty_of_foldAscii_eq first.symm
        · rintro rfl
          exact Text.eq_empty_of_foldAscii_eq first
      have last : rest = [] ↔ rest' = [] := by
        rw [← List.map_eq_nil_iff (f := Text.foldAscii), later, List.map_eq_nil_iff]
      refine Option.ext fun r => ?_
      simp only [resolveSegments?_cons_iff, ne_eq, blank, last, (family e).field?_congr first,
        ih later]

theorem resolvePath?_congr (s : Schema ι) {path path' : String}
    (h : Text.foldAscii path = Text.foldAscii path') :
    s.resolvePath? path = s.resolvePath? path' := by
  have segments : (Text.split '.' path).map Text.foldAscii =
      (Text.split '.' path').map Text.foldAscii := by
    rw [← Text.split_foldAscii (by decide), h, Text.split_foldAscii (by decide)]
  have length := congrArg List.length segments
  rw [List.length_map, List.length_map] at length
  rw [resolvePath?, resolvePath?, length, resolveSegments?_congr segments]

theorem resolvePath?_cases {path : String} (h : s.resolvePath? path = some r) :
    (∃ f ∈ s.entity.fields, r = ⟨f.name, f, f.canBeNull⟩) ∨
      ∃ f ∈ s.entity.fields, ∃ target, f.type = .object target ∧
        ∃ rest tail, (s.seenFrom target).resolvePath? rest = some tail ∧
          r = ⟨f.name ++ "." ++ tail.path, tail.descriptor, f.canBeNull || tail.nullable⟩ := by
  rw [resolvePath?] at h
  split at h
  next short =>
    cases segments : Text.split '.' path with
    | nil =>
      rw [segments] at h
      cases h
    | cons segment more =>
      rw [segments] at h short
      obtain ⟨-, f, found, last | inner⟩ := resolveSegments?_cons_iff.1 h
      next => exact .inl ⟨f, EntitySchema.mem_of_field? found, last.2⟩
      next =>
        obtain ⟨some, target, tail, type, resolved, rfl⟩ := inner
        have apart : ∀ piece ∈ more, '.' ∉ piece.toList := fun piece mem =>
          Text.notMem_of_mem_split (s := path) (segments ▸ List.mem_cons_of_mem segment mem)
        have split : Text.split '.' (Text.join "." more) = more :=
          Text.split_join_of_notMem some apart
        refine .inr ⟨f, EntitySchema.mem_of_field? found, target, type, Text.join "." more, tail,
          ?_, rfl⟩
        rw [List.length_cons] at short
        rw [resolvePath?, split, if_pos (by omega)]
        exact resolved
  next => cases h

end Schema

namespace Sample

theorem family_wellNamed (kind : Kind) : (family kind).WellNamed := by
  cases kind <;> exact ⟨by decide, by decide, by decide⟩

end Sample

end EntityQuery
