import EntityQuery.Expr.Canonical
import EntityQuery.Proofs.Expr.Leaves
import EntityQuery.Proofs.Schema.Path

set_option autoImplicit false

namespace EntityQuery

variable {ι : Type}

def Schema.Declares (s : Schema ι) (path : String) : Prop :=
  ∃ r, s.resolvePath? path = some r ∧ r.path = path

theorem Schema.declares_of_canonicalPath? {s : Schema ι} {path declared : String}
    (h : s.canonicalPath? path = some declared) : s.Declares declared := by
  obtain ⟨r, resolved, rfl⟩ := Option.map_eq_some_iff.1 h
  exact ⟨r, (resolvePath?_canonical resolved).1, rfl⟩

theorem Schema.canonicalPath?_eq_none_iff {s : Schema ι} {path : String} :
    s.canonicalPath? path = none ↔ s.resolvePath? path = none := by
  simp [canonicalPath?]

theorem Schema.declaredPath_of_declares {s : Schema ι} {path : String}
    (declares : s.Declares path) :
    Expr.declaredPath s path = path := by
  obtain ⟨r, resolved, same⟩ := declares
  rw [Expr.declaredPath, canonicalPath?, resolved]
  exact same

namespace Expr

mutual

def mapFields (rename : String → String) : Expr → Expr
  | const b => const b
  | compare f op v => compare (rename f) op v
  | text f op v => text (rename f) op v
  | null f negated => null (rename f) negated
  | empty f negated => empty (rename f) negated
  | oneOf f vs negated => oneOf (rename f) vs negated
  | and es => and (mapFieldsOfAll rename es)
  | or es => or (mapFieldsOfAll rename es)
  | not e => not (e.mapFields rename)

def mapFieldsOfAll (rename : String → String) : List Expr → List Expr
  | [] => []
  | e :: es => e.mapFields rename :: mapFieldsOfAll rename es

end

def unknownFields (s : Schema ι) (e : Expr) : List String :=
  e.fields.filter fun f => (s.resolvePath? f).isNone

mutual

theorem fields_mapFields (rename : String → String) :
    (e : Expr) → (e.mapFields rename).fields = e.fields.map rename
  | const _ => rfl
  | compare _ _ _ => rfl
  | text _ _ _ => rfl
  | null _ _ => rfl
  | empty _ _ => rfl
  | oneOf _ _ _ => rfl
  | and es => fieldsOfAll_mapFields rename es
  | or es => fieldsOfAll_mapFields rename es
  | not e => fields_mapFields rename e

theorem fieldsOfAll_mapFields (rename : String → String) :
    (es : List Expr) → fieldsOfAll (mapFieldsOfAll rename es) = (fieldsOfAll es).map rename
  | [] => rfl
  | e :: es => by
    simp only [mapFieldsOfAll, fieldsOfAll, fields_mapFields rename e,
      fieldsOfAll_mapFields rename es, List.map_append]

end

mutual

theorem fields_eq_leaves : (e : Expr) → e.fields = e.leaves.flatMap fields
  | const _ => rfl
  | compare _ _ _ => rfl
  | text _ _ _ => rfl
  | null _ _ => rfl
  | empty _ _ => rfl
  | oneOf _ _ _ => rfl
  | and es => fieldsOfAll_eq_leaves es
  | or es => fieldsOfAll_eq_leaves es
  | not e => fields_eq_leaves e

theorem fieldsOfAll_eq_leaves : (es : List Expr) → fieldsOfAll es = (leavesOfAll es).flatMap fields
  | [] => rfl
  | e :: es => by
    simp only [leavesOfAll, fieldsOfAll, List.flatMap_append, fields_eq_leaves e,
      fieldsOfAll_eq_leaves es]

end

mutual

theorem evaluate_mapFields (rename : String → String) (get : String → Value) :
    (e : Expr) → (e.mapFields rename).evaluate get = e.evaluate (get ∘ rename)
  | const _ | compare _ _ _ | text _ _ _ | null _ _ | empty _ _ | oneOf _ _ _ => by
    simp only [mapFields, evaluate, Function.comp_apply]
  | and es => by
    simp only [mapFields, evaluate, evaluateAll_mapFields rename get es]
  | or es => by
    simp only [mapFields, evaluate, evaluateAny_mapFields rename get es]
  | not e => by
    simp only [mapFields, evaluate, evaluate_mapFields rename get e]

theorem evaluateAll_mapFields (rename : String → String) (get : String → Value) :
    (es : List Expr) → evaluateAll get (mapFieldsOfAll rename es) = evaluateAll (get ∘ rename) es
  | [] => by simp only [mapFieldsOfAll, evaluateAll]
  | e :: es => by
    simp only [mapFieldsOfAll, evaluateAll, evaluate_mapFields rename get e,
      evaluateAll_mapFields rename get es]

theorem evaluateAny_mapFields (rename : String → String) (get : String → Value) :
    (es : List Expr) → evaluateAny get (mapFieldsOfAll rename es) = evaluateAny (get ∘ rename) es
  | [] => by simp only [mapFieldsOfAll, evaluateAny]
  | e :: es => by
    simp only [mapFieldsOfAll, evaluateAny, evaluate_mapFields rename get e,
      evaluateAny_mapFields rename get es]

end

mutual

theorem mapFields_eq_self {rename : String → String} :
    (e : Expr) → (∀ f ∈ e.fields, rename f = f) → e.mapFields rename = e
  | const _, _ => rfl
  | compare _ _ _, same | text _ _ _, same | null _ _, same | empty _ _, same
  | oneOf _ _ _, same => by
    simp only [fields, List.forall_mem_singleton] at same
    simp only [mapFields, same]
  | and es, same => congrArg and (mapFieldsOfAll_eq_self es same)
  | or es, same => congrArg or (mapFieldsOfAll_eq_self es same)
  | not e, same => congrArg not (mapFields_eq_self e same)

theorem mapFieldsOfAll_eq_self {rename : String → String} :
    (es : List Expr) → (∀ f ∈ fieldsOfAll es, rename f = f) → mapFieldsOfAll rename es = es
  | [], _ => rfl
  | e :: es, same => by
    obtain ⟨first, rest⟩ := List.forall_mem_append.1 same
    rw [mapFieldsOfAll, mapFields_eq_self e first, mapFieldsOfAll_eq_self es rest]

end

theorem fields_negate (e : Expr) : e.negate.fields = e.fields := by
  cases e <;> rfl

variable {s : Schema ι} {e declared : Expr}

theorem unknownFields_eq_nil_iff :
    e.unknownFields s = [] ↔ ∀ f ∈ e.fields, (s.resolvePath? f).isSome = true := by
  simp [unknownFields, Option.isSome_iff_ne_none]

theorem mem_unknownFields_iff {f : String} :
    f ∈ e.unknownFields s ↔ f ∈ e.fields ∧ s.resolvePath? f = none := by
  simp [unknownFields]

theorem count_unknownFields {f : String} (unresolved : s.resolvePath? f = none) :
    (e.unknownFields s).count f = e.fields.count f :=
  List.count_filter (by simp [unresolved])

section

variable {α β : Type} {x : StateM (List String) α} {a : α} {names : List String}

def Notes (x : StateM (List String) α) (result : α) (names : List String) : Prop :=
  ∀ before, x.run before = (result, before ++ names)

theorem Notes.pure (a : α) : Notes (Pure.pure a) a [] := by
  intro before
  rw [List.append_nil]
  rfl

theorem Notes.bind {f : α → StateM (List String) β} {b : β} {more : List String}
    (first : Notes x a names) (second : Notes (f a) b more) :
    Notes (x >>= f) b (names ++ more) := by
  intro before
  rw [StateT.run_bind, first before, ← List.append_assoc]
  exact second _

theorem Notes.map (h : Notes x a names) (f : α → β) :
    Notes (x >>= fun y => return f y) (f a) names := by
  have done : Notes (x >>= fun y => return f y) (f a) (names ++ []) := h.bind (.pure (f a))
  rwa [List.append_nil] at done

end

theorem respellField_notes (s : Schema ι) (f : String) :
    Notes (respellField s f) (declaredPath s f) ([f].filter fun f => (s.resolvePath? f).isNone) := by
  rw [respellField, declaredPath]
  cases found : s.canonicalPath? f with
  | some declared =>
    have known : (s.resolvePath? f).isNone = false := by
      rw [Option.isNone_eq_false_iff, Option.isSome_iff_ne_none]
      simp [← s.canonicalPath?_eq_none_iff, found]
    rw [List.filter_singleton, known]
    exact .pure declared
  | none =>
    rw [List.filter_singleton, Schema.canonicalPath?_eq_none_iff.1 found]
    exact fun before => rfl

mutual

theorem respell_notes (s : Schema ι) :
    (e : Expr) → Notes (e.respell s) (e.mapFields (declaredPath s)) (e.unknownFields s)
  | const b => .pure (const b)
  | compare f op v => (respellField_notes s f).map (compare · op v)
  | text f op v => (respellField_notes s f).map (text · op v)
  | null f negated => (respellField_notes s f).map (null · negated)
  | empty f negated => (respellField_notes s f).map (empty · negated)
  | oneOf f vs negated => (respellField_notes s f).map (oneOf · vs negated)
  | and es => (respellAll_notes s es).map and
  | or es => (respellAll_notes s es).map or
  | not e => (respell_notes s e).map not

theorem respellAll_notes (s : Schema ι) : (es : List Expr) →
    Notes (respellAll s es) (mapFieldsOfAll (declaredPath s) es)
      ((fieldsOfAll es).filter fun f => (s.resolvePath? f).isNone)
  | [] => .pure []
  | e :: es => by
    rw [fieldsOfAll, List.filter_append]
    exact (respell_notes s e).bind ((respellAll_notes s es).map _)

end

theorem canonicalize_eq (s : Schema ι) (e : Expr) :
    e.canonicalize s =
      match e.unknownFields s with
      | [] => .ok (e.mapFields (declaredPath s))
      | unknown => .error unknown := by
  rw [canonicalize, respell_notes s e [], List.nil_append]
  cases e.unknownFields s <;> rfl

theorem canonicalize_of_known (known : e.unknownFields s = []) :
    e.canonicalize s = .ok (e.mapFields (declaredPath s)) := by
  rw [canonicalize_eq, known]

theorem canonicalize_of_unknown (unknown : e.unknownFields s ≠ []) :
    e.canonicalize s = .error (e.unknownFields s) := by
  rw [canonicalize_eq]
  split
  next known => exact absurd known unknown
  next => rfl

theorem canonicalize_declares (h : e.canonicalize s = .ok declared) :
    ∀ f ∈ declared.fields, s.Declares f := by
  by_cases known : e.unknownFields s = []
  next =>
    rw [canonicalize_of_known known] at h
    cases h
    rw [fields_mapFields, List.forall_mem_map]
    intro f mem
    -- No field is unknown, so the spelling each of them gets is that of its path.
    obtain ⟨r, found⟩ := Option.isSome_iff_exists.1 (unknownFields_eq_nil_iff.1 known f mem)
    have path : declaredPath s f = r.path := by simp [declaredPath, Schema.canonicalPath?, found]
    rw [path]
    exact ⟨r, (Schema.resolvePath?_canonical found).1, rfl⟩
  next =>
    rw [canonicalize_of_unknown known] at h
    cases h

inductive Renamed (R : String → String → Prop) : Expr → Expr → Prop
  | const (b : Bool) : Renamed R (const b) (const b)
  | compare {f g : String} (op : CompareOp) (v : Value) (name : R f g) :
    Renamed R (compare f op v) (compare g op v)
  | text {f g : String} (op : TextOp) (v : String) (name : R f g) :
    Renamed R (text f op v) (text g op v)
  | null {f g : String} (negated : Bool) (name : R f g) : Renamed R (null f negated) (null g negated)
  | empty {f g : String} (negated : Bool) (name : R f g) :
    Renamed R (empty f negated) (empty g negated)
  | oneOf {f g : String} (vs : List Value) (negated : Bool) (name : R f g) :
    Renamed R (oneOf f vs negated) (oneOf g vs negated)
  | and {es fs : List Expr} (operands : List.Forall₂ (Renamed R) es fs) :
    Renamed R (and es) (and fs)
  | or {es fs : List Expr} (operands : List.Forall₂ (Renamed R) es fs) :
    Renamed R (or es) (or fs)
  | not {e f : Expr} (operand : Renamed R e f) : Renamed R (not e) (not f)

section

variable {R : String → String → Prop} {rename : String → String}

mutual

theorem renamed_mapFields :
    (e : Expr) → (∀ f ∈ e.fields, R f (rename f)) → Renamed R e (e.mapFields rename)
  | const b, _ => .const b
  | compare _ op v, names => .compare op v (names _ List.mem_cons_self)
  | text _ op v, names => .text op v (names _ List.mem_cons_self)
  | null _ negated, names => .null negated (names _ List.mem_cons_self)
  | empty _ negated, names => .empty negated (names _ List.mem_cons_self)
  | oneOf _ vs negated, names => .oneOf vs negated (names _ List.mem_cons_self)
  | and es, names => .and (renamed_mapFieldsOfAll es names)
  | or es, names => .or (renamed_mapFieldsOfAll es names)
  | not e, names => .not (renamed_mapFields e names)

theorem renamed_mapFieldsOfAll : (es : List Expr) → (∀ f ∈ fieldsOfAll es, R f (rename f)) →
    List.Forall₂ (Renamed R) es (mapFieldsOfAll rename es)
  | [], _ => .nil
  | e :: es, names =>
    have ⟨first, rest⟩ := List.forall_mem_append.1 names
    .cons (renamed_mapFields e first) (renamed_mapFieldsOfAll es rest)

end

end

mutual

theorem evaluate_congr {get get' : String → Value} :
    (e : Expr) → (∀ f ∈ e.fields, get f = get' f) → e.evaluate get = e.evaluate get'
  | const _, _ => by simp only [evaluate]
  | compare _ _ _, same | text _ _ _, same | null _ _, same | empty _ _, same
  | oneOf _ _ _, same => by
    simp only [fields, List.forall_mem_singleton] at same
    simp only [evaluate, same]
  | and es, same => by simp only [evaluate, evaluateAll_congr es same]
  | or es, same => by simp only [evaluate, evaluateAny_congr es same]
  | not e, same => by simp only [evaluate, evaluate_congr e same]

theorem evaluateAll_congr {get get' : String → Value} : (es : List Expr) →
    (∀ f ∈ fieldsOfAll es, get f = get' f) → evaluateAll get es = evaluateAll get' es
  | [], _ => by simp only [evaluateAll]
  | e :: es, same => by
    obtain ⟨first, rest⟩ := List.forall_mem_append.1 same
    simp only [evaluateAll, evaluate_congr e first, evaluateAll_congr es rest]

theorem evaluateAny_congr {get get' : String → Value} : (es : List Expr) →
    (∀ f ∈ fieldsOfAll es, get f = get' f) → evaluateAny get es = evaluateAny get' es
  | [], _ => by simp only [evaluateAny]
  | e :: es, same => by
    obtain ⟨first, rest⟩ := List.forall_mem_append.1 same
    simp only [evaluateAny, evaluate_congr e first, evaluateAny_congr es rest]

end

theorem canonicalPath?_of_known (known : e.unknownFields s = []) :
    ∀ f ∈ e.fields, s.canonicalPath? f = some (declaredPath s f) := by
  intro f mem
  obtain ⟨r, found⟩ := Option.isSome_iff_exists.1 (unknownFields_eq_nil_iff.1 known f mem)
  simp [declaredPath, Schema.canonicalPath?, found]

/-- Fields that do not resolve are reported, all of them and in order. If there are none, the
spelling of every field is settled for good, and nothing else is changed: what comes out is true
where the expression is, read through the schema. -/
theorem canonicalize_exact (s : Schema ι) (e : Expr) :
    ((∃ unknown, e.canonicalize s = .error unknown) ↔
        ∃ f ∈ e.fields, s.resolvePath? f = none) ∧
      match e.canonicalize s with
      | .error unknown => unknown = e.fields.filter fun f => (s.resolvePath? f).isNone
      | .ok declared =>
        Renamed (fun f g => s.canonicalPath? f = some g) e declared ∧
          declared.fields.map some = e.fields.map s.canonicalPath? ∧
          declared.canonicalize s = .ok declared ∧
          ∀ get : String → Value, declared.evaluate get =
            e.evaluate fun f => (s.canonicalPath? f).elim .null get := by
  by_cases known : e.unknownFields s = []
  next =>
    have spelled := canonicalPath?_of_known known
    have settled := canonicalize_declares (canonicalize_of_known known)
    have stillKnown : (e.mapFields (declaredPath s)).unknownFields s = [] := by
      refine unknownFields_eq_nil_iff.2 fun f mem => ?_
      obtain ⟨r, resolved, -⟩ := settled f mem
      exact Option.isSome_of_eq_some resolved
    rw [canonicalize_of_known known]
    refine ⟨?_, renamed_mapFields e spelled, ?_, ?_, fun get => ?_⟩
    · have resolve := unknownFields_eq_nil_iff.1 known
      simpa [Option.isSome_iff_ne_none] using resolve
    · rw [fields_mapFields, List.map_map]
      exact List.map_congr_left fun f mem => (spelled f mem).symm
    · rw [canonicalize_of_known stillKnown,
        mapFields_eq_self _ fun f mem => Schema.declaredPath_of_declares (settled f mem)]
    · rw [evaluate_mapFields]
      refine evaluate_congr e fun f mem => ?_
      rw [spelled f mem]
      rfl
  next =>
    rw [canonicalize_of_unknown known]
    refine ⟨?_, rfl⟩
    obtain ⟨f, mem⟩ := List.exists_mem_of_ne_nil _ known
    have unknown := mem_unknownFields_iff.1 mem
    exact ⟨fun _ => ⟨f, unknown⟩, fun _ => ⟨_, rfl⟩⟩

end Expr

end EntityQuery
