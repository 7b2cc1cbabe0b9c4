import EntityQuery.Proofs.Except
import EntityQuery.Proofs.Expr.Canonical
import EntityQuery.Proofs.Text.Basic
import EntityQuery.Proofs.ValidationErrors
import EntityQuery.Sample.Projection
import EntityQuery.Sample.Record
import EntityQuery.Specification.Builder

set_option autoImplicit false

namespace EntityQuery

variable {ι ρ α : Type} [ResultTypes ρ]

namespace Chain

mutual

def links (owner : Schema ι) : Chain ι → List (Schema ι × Relation ι)
  | ⟨r, children⟩ => (owner, r) :: linksOfAll (owner.seenFrom r.target) children

def linksOfAll (owner : Schema ι) : List (Chain ι) → List (Schema ι × Relation ι)
  | [] => []
  | chain :: chains => chain.links owner ++ linksOfAll owner chains

end

def undeclaredLinks (links : List (Schema ι × Relation ι)) : List String :=
  (links.filter fun link => !link.2.isDeclared link.1).map fun link =>
    link.1.name ++ "." ++ link.2.name

theorem undeclaredLinks_append (links more : List (Schema ι × Relation ι)) :
    undeclaredLinks (links ++ more) = undeclaredLinks links ++ undeclaredLinks more := by
  simp [undeclaredLinks]

mutual

theorem undeclared_eq (owner : Schema ι) : (chain : Chain ι) →
    chain.undeclared owner = undeclaredLinks (chain.links owner)
  | ⟨r, children⟩ => by
    rw [undeclared, links, undeclaredOfAll_eq (owner.seenFrom r.target) children]
    cases declared : r.isDeclared owner <;> simp [undeclaredLinks, declared]

theorem undeclaredOfAll_eq (owner : Schema ι) : (chains : List (Chain ι)) →
    undeclaredOfAll owner chains = undeclaredLinks (linksOfAll owner chains)
  | [] => rfl
  | chain :: chains => by
    rw [undeclaredOfAll, linksOfAll, undeclared_eq owner chain, undeclaredOfAll_eq owner chains,
      undeclaredLinks_append]

end

end Chain

def faultUnless (valid : Bool) (fault : Fault) : List Fault :=
  if valid then [] else [fault]

theorem faultUnless_eq_nil_iff {valid : Bool} {fault : Fault} :
    faultUnless valid fault = [] ↔ valid = true := by
  cases valid <;> simp [faultUnless]

namespace Schema

variable (s : Schema ι)

def unknownField (field : String) : Fault :=
  .field field ("is not a field of " ++ s.name)

theorem unknownField_base (unknown : List String) :
    (unknown.map s.unknownField).filterMap Fault.baseMessage? = [] := by
  simp [unknownField, Fault.baseMessage?]

theorem unknownField_messages (unknown : List String) (name : String) :
    (unknown.map s.unknownField).filterMap (Fault.messageFor? name) =
      List.replicate (unknown.count name) ("is not a field of " ++ s.name) := by
  induction unknown with
  | nil => rfl
  | cons field rest ih =>
    by_cases own : field = name
    next =>
      have message : (s.unknownField field).messageFor? name =
          some ("is not a field of " ++ s.name) := if_pos own
      rw [List.map_cons, List.filterMap_cons_some message, ih, own, List.count_cons_self,
        List.replicate_succ]
    next =>
      have other : (s.unknownField field).messageFor? name = none := if_neg own
      rw [List.map_cons, List.filterMap_cons_none other, ih, List.count_cons_of_ne own]

def searchFault? (field : String) : Option Fault :=
  match s.resolvePath? field with
  | some r =>
    if r.descriptor.type.isString then none
    else some (.field r.path "is not a string field and cannot be searched")
  | none => some (s.unknownField field)

theorem searchFault?_eq_none_iff (field : String) :
    s.searchFault? field = none ↔
      ∃ r, s.resolvePath? field = some r ∧ r.descriptor.type.isString = true := by
  rw [searchFault?]
  cases s.resolvePath? field with
  | none => simp
  | some r => simp

end Schema

namespace BuildStep

variable (s : Schema ι)

def opensOrdering : BuildStep ι ρ α → Bool
  | .orderBy _ _ => true
  | .applyFilterModel model config =>
    !(FilterCompiler.compileSorts ⟨s, config⟩ model.sorts).isEmpty
  | _ => false

def Valid (ordered : Bool) : BuildStep ι ρ α → Prop
  | .whereExpr e | .andWhere e => ∀ f ∈ e.fields, (s.resolvePath? f).isSome = true
  | .whereComposition c => ∀ f ∈ c.toExpr.fields, (s.resolvePath? f).isSome = true
  | .includeRelation r => r.isDeclared s = true
  | .includeChain chain => ∀ link ∈ chain.links s, link.2.isDeclared link.1 = true
  | .includePath path => (s.resolveRelations? path).isSome = true
  | .orderBy field _ => ordered = false ∧ (s.resolvePath? field).isSome = true
  | .thenBy field _ => ordered = true ∧ (s.resolvePath? field).isSome = true
  | .paginate _ pageSize => pageSize ≠ 0
  | .page request => request.pageSize ≠ 0
  | .take count => count ≠ 0
  | .limit count => count ≠ 0
  | .groupBy field => (s.resolvePath? field).isSome = true
  | .tag mark => Text.isBlankText mark = false
  | .search term fields => Text.isBlankText term = false → ∀ f ∈ fields,
    ∃ r, s.resolvePath? f = some r ∧ r.descriptor.type.isString = true
  | .skip _ | .distinct | .tracking _ | .ignoreStoreFilters | .splitFetch | .select _
  | .applyFilterModel _ _ => True

def faults (ordered : Bool) : BuildStep ι ρ α → List Fault
  | .whereExpr e | .andWhere e => (e.unknownFields s).map s.unknownField
  | .whereComposition c => (c.toExpr.unknownFields s).map s.unknownField
  | .includeRelation r => faultUnless (r.isDeclared s)
    (.field "include" (r.name ++ " is not a navigation of " ++ s.name))
  | .includeChain chain => (Chain.undeclaredLinks (chain.links s)).map fun link =>
    .field "include" (link ++ " is not a declared navigation")
  | .includePath path => faultUnless (s.resolveRelations? path).isSome
    (.field "include" (path ++ " is not a navigation path of " ++ s.name))
  | .orderBy field _ =>
    faultUnless (!ordered)
      (.base "order_by may only be used once; use then_by for further keys") ++
      faultUnless (s.resolvePath? field).isSome (s.unknownField field)
  | .thenBy field _ =>
    faultUnless ordered (.base "then_by requires a preceding order_by") ++
      faultUnless (s.resolvePath? field).isSome (s.unknownField field)
  | .paginate _ pageSize =>
    faultUnless (pageSize ≠ 0) (.field "page_size" "must be greater than zero")
  | .page request =>
    faultUnless (request.pageSize ≠ 0) (.field "page_size" "must be greater than zero")
  | .take count => faultUnless (count ≠ 0) (.field "take" "must be greater than zero")
  | .limit count => faultUnless (count ≠ 0) (.field "limit" "must be greater than zero")
  | .groupBy field => faultUnless (s.resolvePath? field).isSome (s.unknownField field)
  | .tag mark => faultUnless (!Text.isBlankText mark) (.field "tag" "must not be blank")
  | .search term fields =>
    if Text.isBlankText term then [] else fields.filterMap s.searchFault?
  | .skip _ | .distinct | .tracking _ | .ignoreStoreFilters | .splitFetch | .select _
  | .applyFilterModel _ _ => []

def faultsOfAll (ordered : Bool) : List (BuildStep ι ρ α) → List Fault
  | [] => []
  | step :: steps =>
    step.faults s ordered ++ faultsOfAll (ordered || step.opensOrdering s) steps

theorem unknownFields_map_eq_nil_iff {e : Expr} :
    (e.unknownFields s).map s.unknownField = [] ↔
      ∀ f ∈ e.fields, (s.resolvePath? f).isSome = true := by
  rw [List.map_eq_nil_iff, Expr.unknownFields_eq_nil_iff]

theorem faults_eq_nil_iff (ordered : Bool) (step : BuildStep ι ρ α) :
    step.faults s ordered = [] ↔ step.Valid s ordered := by
  cases step with
  | whereExpr e | andWhere e => exact unknownFields_map_eq_nil_iff s
  | whereComposition c => exact unknownFields_map_eq_nil_iff s
  | includeChain chain => simp [faults, Valid, Chain.undeclaredLinks]
  | search term fields =>
    simp only [faults, Valid]
    cases Text.isBlankText term <;> simp [Schema.searchFault?_eq_none_iff]
  | _ => simp [faults, Valid, faultUnless_eq_nil_iff]

theorem faultsOfAll_append (ordered : Bool) (before after : List (BuildStep ι ρ α)) :
    faultsOfAll s ordered (before ++ after) = faultsOfAll s ordered before ++
      faultsOfAll s (ordered || before.any fun step => step.opensOrdering s) after := by
  induction before generalizing ordered with
  | nil => simp [faultsOfAll]
  | cons step before ih => simp [faultsOfAll, ih, Bool.or_assoc]

theorem faultsOfAll_eq_nil_iff (ordered : Bool) (steps : List (BuildStep ι ρ α)) :
    faultsOfAll s ordered steps = [] ↔ ∀ before step after, steps = before ++ step :: after →
      step.Valid s (ordered || before.any fun step => step.opensOrdering s) := by
  induction steps generalizing ordered with
  | nil => simp [faultsOfAll]
  | cons step steps ih =>
    rw [faultsOfAll, List.append_eq_nil_iff, faults_eq_nil_iff, ih]
    constructor
    · rintro ⟨first, later⟩ before step' after split
      cases before with
      | nil =>
        obtain ⟨rfl, -⟩ := List.cons_eq_cons.1 split
        simpa using first
      | cons step'' before =>
        obtain ⟨rfl, rfl⟩ := List.cons_eq_cons.1 split
        simpa [Bool.or_assoc] using later before step' after rfl
    · intro each
      refine ⟨by simpa using each [] step steps rfl, fun before step' after split => ?_⟩
      subst split
      simpa [Bool.or_assoc] using each (step :: before) step' after rfl

end BuildStep

namespace Builder

variable {s : Schema ι} {b b' : Builder ι ρ α}

theorem build_ok {spec : Specification ρ α} (h : b.build = .ok spec) :
    b.errors.isEmpty = true ∧ spec = b.spec := by
  rw [build] at h
  split at h
  next clean => exact ⟨clean, (Except.ok.inj h).symm⟩
  next => cases h

theorem build_of_clean (clean : b.errors.isEmpty = true) : b.build = .ok b.spec := by
  rw [build, if_pos clean]

theorem build_error {e : QueryError} (failed : b.build = .error e) :
    e = .invalidSpecification b.errors := by
  rw [build] at failed
  split at failed
  next => cases failed
  next => exact (Except.error.inj failed).symm

theorem build_ok_iff : (∃ spec, b.build = .ok spec) ↔ b.errors.isEmpty = true :=
  ⟨fun ⟨_, built⟩ => (build_ok built).1, fun clean => ⟨_, build_of_clean clean⟩⟩

def noteAll (b : Builder ι ρ α) (faults : List Fault) : Builder ι ρ α :=
  { b with errors := faults.foldl ValidationErrors.note b.errors }

theorem noteAll_noteAll (b : Builder ι ρ α) (faults more : List Fault) :
    (b.noteAll faults).noteAll more = b.noteAll (faults ++ more) := by
  simp [noteAll]

theorem noteAll_clean_iff {faults : List Fault} :
    (b.noteAll faults).errors.isEmpty = true ↔ b.errors.isEmpty = true ∧ faults = [] :=
  ValidationErrors.isEmpty_foldl_note faults b.errors

theorem foldl_notes (fault : Schema ι → String → Fault)
    {step : Builder ι ρ α → String → Builder ι ρ α}
    (notes : ∀ b x, step b x = b.noteAll [fault b.schema x]) (wrong : List String)
    (b : Builder ι ρ α) : wrong.foldl step b = b.noteAll (wrong.map (fault b.schema)) := by
  induction wrong generalizing b with
  | nil => rfl
  | cons x rest ih =>
    rw [List.foldl_cons, ih, notes, List.map_cons, ← List.singleton_append, ← noteAll_noteAll]
    rfl

theorem foldl_addUnknownField (unknown : List String) (b : Builder ι ρ α) :
    unknown.foldl addUnknownField b = b.noteAll (unknown.map b.schema.unknownField) :=
  foldl_notes Schema.unknownField (fun _ _ => rfl) unknown b

theorem foldl_addError (field : String) (message : String → String) (wrong : List String)
    (b : Builder ι ρ α) :
    wrong.foldl (fun b x => b.addError field (message x)) b =
      b.noteAll (wrong.map fun x => .field field (message x)) :=
  foldl_notes (fun _ x => .field field (message x)) (fun _ _ => rfl) wrong b

theorem check_of_known (b : Builder ι ρ α) {e : Expr} (known : e.unknownFields b.schema = []) :
    b.check e = (b, e.mapFields (Expr.declaredPath b.schema)) := by
  rw [check, Expr.canonicalize_of_known known]

theorem check_notes (b : Builder ι ρ α) (e : Expr) :
    (b.check e).1 = b.noteAll ((e.unknownFields b.schema).map b.schema.unknownField) := by
  by_cases known : e.unknownFields b.schema = []
  next =>
    rw [check_of_known b known, known]
    rfl
  next =>
    rw [check, Expr.canonicalize_of_unknown known]
    exact foldl_addUnknownField _ b

theorem check_declares {e : Expr} (clean : (b.check e).1.errors.isEmpty = true) :
    ∀ f ∈ (b.check e).2.fields, b.schema.Declares f := by
  rw [check_notes, noteAll_clean_iff, List.map_eq_nil_iff] at clean
  rw [check_of_known b clean.2]
  exact Expr.canonicalize_declares (Expr.canonicalize_of_known clean.2)

theorem searchFields_notes (fields : List String) (b : Builder ι ρ α) :
    (b.searchFields fields).1 = b.noteAll (fields.filterMap b.schema.searchFault?) := by
  induction fields generalizing b with
  | nil => rfl
  | cons field rest ih =>
    rw [searchFields]
    split
    next r resolved =>
      split
      next string =>
        have sound : b.schema.searchFault? field = none :=
          (b.schema.searchFault?_eq_none_iff field).2 ⟨r, resolved, string⟩
        rw [List.filterMap_cons_none sound]
        exact ih b
      next other =>
        have fault : b.schema.searchFault? field =
            some (.field r.path "is not a string field and cannot be searched") := by
          simp [Schema.searchFault?, resolved, other]
        rw [ih, List.filterMap_cons_some fault, ← List.singleton_append, ← noteAll_noteAll]
        rfl
    next unresolved =>
      have fault : b.schema.searchFault? field = some (b.schema.unknownField field) := by
        simp [Schema.searchFault?, unresolved]
      rw [ih, List.filterMap_cons_some fault, ← List.singleton_append, ← noteAll_noteAll]
      rfl

theorem searchFields_strings (fields : List String) :
    ∀ f ∈ (b.searchFields fields).2,
      ∃ r, b.schema.resolvePath? f = some r ∧ r.path = f ∧ r.descriptor.type = .string := by
  induction fields generalizing b with
  | nil => exact List.forall_mem_nil _
  | cons field rest ih =>
    rw [searchFields]
    split
    next r resolved =>
      split
      next string =>
        refine List.forall_mem_cons.2 ⟨?_, ih⟩
        refine ⟨r, (Schema.resolvePath?_canonical resolved).1, rfl, ?_⟩
        cases type : r.descriptor.type <;> simp [type, FieldType.isString] at string ⊢
      next => exact ih (b := b.addError r.path _)
    next => exact ih (b := b.addUnknownField field)

/-- The builder went on with these faults noted, and with the ordering opened or not. -/
structure Took (b b' : Builder ι ρ α) (faults : List Fault) (opens : Bool) : Prop where
  schema : b'.schema = b.schema
  errors : b'.errors = faults.foldl ValidationErrors.note b.errors
  ordered : b'.ordered = (b.ordered || opens)

theorem noteAll_took (b : Builder ι ρ α) (faults : List Fault) :
    Took b (b.noteAll faults) faults false :=
  ⟨rfl, rfl, (Bool.or_false _).symm⟩

theorem Took.trans {b'' : Builder ι ρ α} {faults more : List Fault} {opens reopens : Bool}
    (first : Took b b' faults opens) (second : Took b' b'' more reopens) :
    Took b b'' (faults ++ more) (opens || reopens) where
  schema := second.schema.trans first.schema
  errors := by rw [second.errors, first.errors, List.foldl_append]
  ordered := by rw [second.ordered, first.ordered, Bool.or_assoc]

theorem whereExpr_took (b : Builder ι ρ α) (e : Expr) :
    Took b (b.whereExpr e) ((e.unknownFields b.schema).map b.schema.unknownField) false := by
  have checked := check_notes b e ▸ noteAll_took b _
  exact { checked with }

theorem andWhere_took (b : Builder ι ρ α) (e : Expr) :
    Took b (b.andWhere e) ((e.unknownFields b.schema).map b.schema.unknownField) false := by
  have checked := check_notes b e ▸ noteAll_took b _
  exact { checked with }

theorem includeRelation_took (b : Builder ι ρ α) (r : Relation ι) :
    Took b (b.includeRelation r) (faultUnless (r.isDeclared b.schema)
      (.field "include" (r.name ++ " is not a navigation of " ++ b.schema.name))) false := by
  rw [includeRelation]
  cases r.isDeclared b.schema with
  | true => exact { noteAll_took b [] with }
  | false => exact { noteAll_took b [.field "include" _] with }

theorem includeChain_took (b : Builder ι ρ α) (chain : Chain ι) :
    Took b (b.includeChain chain) ((Chain.undeclaredLinks (chain.links b.schema)).map fun link =>
      .field "include" (link ++ " is not a declared navigation")) false := by
  rw [includeChain, foldl_addError, Chain.undeclared_eq]
  exact { noteAll_took b _ with }

theorem includePath_took (b : Builder ι ρ α) (path : String) :
    Took b (b.includePath path) (faultUnless (b.schema.resolveRelations? path).isSome
      (.field "include" (path ++ " is not a navigation path of " ++ b.schema.name))) false := by
  rw [includePath]
  cases b.schema.resolveRelations? path with
  | some links => exact { noteAll_took b [] with }
  | none => exact noteAll_took b [.field "include" _]

theorem pushOrdering_took (b : Builder ι ρ α) (field : String) (direction : SortDirection) :
    Took b (b.pushOrdering field direction) (faultUnless (b.schema.resolvePath? field).isSome
      (b.schema.unknownField field)) false := by
  rw [pushOrdering, Schema.canonicalPath?]
  cases b.schema.resolvePath? field with
  | some r => exact { noteAll_took b [] with }
  | none => exact noteAll_took b [b.schema.unknownField field]

theorem groupBy_took (b : Builder ι ρ α) (field : String) :
    Took b (b.groupBy field) (faultUnless (b.schema.resolvePath? field).isSome
      (b.schema.unknownField field)) false := by
  rw [groupBy, Schema.canonicalPath?]
  cases b.schema.resolvePath? field with
  | some r => exact { noteAll_took b [] with }
  | none => exact noteAll_took b [b.schema.unknownField field]

theorem tag_took (b : Builder ι ρ α) (mark : String) :
    Took b (b.tag mark) (faultUnless (!Text.isBlankText mark)
      (.field "tag" "must not be blank")) false := by
  rw [tag]
  cases Text.isBlankText mark with
  | true => exact noteAll_took b [.field "tag" _]
  | false => exact { noteAll_took b [] with }

theorem orderBy_took (b : Builder ι ρ α) (field : String) (direction : SortDirection) :
    Took b (b.orderBy field direction)
      (BuildStep.faults b.schema b.ordered (.orderBy field direction : BuildStep ι ρ α)) true := by
  have opened : Took b
      { (if b.ordered then
          b.addBaseError "order_by may only be used once; use then_by for further keys"
        else b) with ordered := true }
      (faultUnless (!b.ordered)
        (.base "order_by may only be used once; use then_by for further keys")) true := by
    cases b.ordered with
    | true => exact ⟨rfl, rfl, (Bool.or_true _).symm⟩
    | false => exact ⟨rfl, rfl, (Bool.or_true _).symm⟩
  have pushed := opened.trans (pushOrdering_took _ field direction)
  rw [opened.schema] at pushed
  exact pushed

theorem thenBy_took (b : Builder ι ρ α) (field : String) (direction : SortDirection) :
    Took b (b.thenBy field direction)
      (BuildStep.faults b.schema b.ordered (.thenBy field direction : BuildStep ι ρ α)) false := by
  have checked : Took b
      (if b.ordered then b else b.addBaseError "then_by requires a preceding order_by")
      (faultUnless b.ordered (.base "then_by requires a preceding order_by")) false := by
    cases ordered : b.ordered with
    | true => exact noteAll_took b []
    | false => exact noteAll_took b [.base _]
  have pushed := checked.trans (pushOrdering_took _ field direction)
  rw [checked.schema] at pushed
  exact pushed

theorem addError_unless_took (b b' : Builder ι ρ α) (field message : String) {wrong : Prop}
    [Decidable wrong] (kept : Took b b' [] false) :
    Took b (if wrong then b.addError field message else b')
      (faultUnless (¬wrong) (.field field message)) false := by
  by_cases h : wrong <;> simp only [h, if_true, if_false]
  · exact noteAll_took b [.field field message]
  · exact kept

theorem search_took (b : Builder ι ρ α) (term : String) (fields : List String) :
    Took b (b.search term fields)
      (BuildStep.faults b.schema b.ordered (.search term fields : BuildStep ι ρ α)) false := by
  rw [search, BuildStep.faults, Text.isBlankText_trim]
  split
  next => exact { noteAll_took b [] with }
  next =>
    cases fields with
    | nil =>
      rw [if_pos List.isEmpty_nil]
      exact { noteAll_took b [] with }
    | cons field rest =>
      rw [List.isEmpty_cons, if_neg Bool.false_ne_true]
      have searched := searchFields_notes (field :: rest) b ▸ noteAll_took b _
      generalize b.searchFields (field :: rest) = found at searched ⊢
      exact { searched with }

theorem applyFilterModel_took {model : FilterModel} {config : QueryConfig}
    (applied : b.applyFilterModel model config = .ok b') :
    Took b b' []
      (BuildStep.opensOrdering b.schema (.applyFilterModel model config : BuildStep ι ρ α)) := by
  rw [applyFilterModel, bind_ok_iff] at applied
  obtain ⟨e, -, rest⟩ := applied
  obtain rfl := pure_ok_iff.1 rest
  exact ⟨rfl, rfl, rfl⟩

theorem step_took {step : BuildStep ι ρ α} (done : b.step step = .ok b') :
    Took b b' (step.faults b.schema b.ordered) (step.opensOrdering b.schema) := by
  cases step with
  | applyFilterModel model config => exact applyFilterModel_took done
  | whereExpr e => exact Except.ok.inj done ▸ whereExpr_took b e
  | whereComposition c => exact Except.ok.inj done ▸ whereExpr_took b c.toExpr
  | andWhere e => exact Except.ok.inj done ▸ andWhere_took b e
  | includeRelation r => exact Except.ok.inj done ▸ includeRelation_took b r
  | includeChain chain => exact Except.ok.inj done ▸ includeChain_took b chain
  | includePath path => exact Except.ok.inj done ▸ includePath_took b path
  | orderBy field direction => exact Except.ok.inj done ▸ orderBy_took b field direction
  | thenBy field direction => exact Except.ok.inj done ▸ thenBy_took b field direction
  | paginate pageIndex pageSize =>
    obtain rfl := Except.ok.inj done
    exact addError_unless_took b _ _ _ { noteAll_took b [] with }
  | page request =>
    obtain rfl := Except.ok.inj done
    exact addError_unless_took b _ _ _ { noteAll_took b [] with }
  | take count =>
    obtain rfl := Except.ok.inj done
    exact addError_unless_took b _ _ _ { noteAll_took b [] with }
  | limit count =>
    obtain rfl := Except.ok.inj done
    exact addError_unless_took b _ _ _ { noteAll_took b [] with }
  | groupBy field => exact Except.ok.inj done ▸ groupBy_took b field
  | tag mark => exact Except.ok.inj done ▸ tag_took b mark
  | search term fields => exact Except.ok.inj done ▸ search_took b term fields
  | skip | distinct | tracking | ignoreStoreFilters | splitFetch | select =>
    obtain rfl := Except.ok.inj done
    exact { noteAll_took b [] with }

theorem run_took {steps : List (BuildStep ι ρ α)} (ran : b.run steps = .ok b') :
    Took b b' (BuildStep.faultsOfAll b.schema b.ordered steps)
      (steps.any fun step => step.opensOrdering b.schema) := by
  induction steps generalizing b with
  | nil =>
    obtain rfl := Except.ok.inj ran
    exact noteAll_took b []
  | cons step steps ih =>
    rw [run, List.foldlM_cons, bind_ok_iff] at ran
    obtain ⟨next, done, rest⟩ := ran
    -- The later steps are judged by the ordering that the first one leaves.
    have first := step_took done
    have later := ih rest
    rw [first.schema, first.ordered] at later
    exact first.trans later

theorem Took.clean_iff {faults : List Fault} {opens : Bool}
    (took : Took (start s : Builder ι ρ α) b faults opens) :
    b.errors.isEmpty = true ↔ faults = [] := by
  rw [took.errors, ValidationErrors.isEmpty_foldl_note]
  exact and_iff_right rfl

theorem Took.reports {faults : List Fault} {opens : Bool}
    (took : Took (start s : Builder ι ρ α) b faults opens) : b.errors.Reports faults := by
  rw [took.errors]
  exact ValidationErrors.empty_reports.noteAll faults

theorem step_ok (b : Builder ι ρ α) (step : BuildStep ι ρ α)
    (compile : ∀ model config, step = .applyFilterModel model config →
      ∃ e, FilterCompiler.compile ⟨b.schema, config⟩ model = .ok e) :
    ∃ b', b.step step = .ok b' := by
  cases step with
  | applyFilterModel model config =>
    obtain ⟨e, compiled⟩ := compile model config rfl
    exact ⟨_, bind_ok_iff.2 ⟨e, compiled, rfl⟩⟩
  | _ => exact ⟨_, rfl⟩

theorem run_ok (b : Builder ι ρ α) (steps : List (BuildStep ι ρ α))
    (compile : ∀ model config, .applyFilterModel model config ∈ steps →
      ∃ e, FilterCompiler.compile ⟨b.schema, config⟩ model = .ok e) :
    ∃ b', b.run steps = .ok b' := by
  induction steps generalizing b with
  | nil => exact ⟨b, rfl⟩
  | cons step steps ih =>
    obtain ⟨next, done⟩ := step_ok b step fun model config h =>
      compile model config (h ▸ List.mem_cons_self)
    obtain ⟨b', ran⟩ := ih next fun model config mem =>
      (step_took done).schema ▸ compile model config (List.mem_cons_of_mem _ mem)
    refine ⟨b', ?_⟩
    rw [run, List.foldlM_cons, done]
    exact ran

/-- Building succeeds if each step is valid in its place, and else reports the faults of all steps
in the order of the steps, none of which any later step takes back. -/
theorem build_reports (s : Schema ι) (steps : List (BuildStep ι ρ α))
    (compile : ∀ model config, .applyFilterModel model config ∈ steps →
      ∃ e, FilterCompiler.compile ⟨s, config⟩ model = .ok e) :
    ∃ b, (start s : Builder ι ρ α).run steps = .ok b ∧
      ((∃ spec, b.build = .ok spec) ↔ ∀ before step after, steps = before ++ step :: after →
        step.Valid s (before.any fun step => step.opensOrdering s)) ∧
      (∀ e, b.build = .error e → ∃ errors, e = .invalidSpecification errors ∧
        errors.Reports (BuildStep.faultsOfAll s false steps)) ∧
      ∀ before after, steps = before ++ after → ∃ earlier,
        (start s : Builder ι ρ α).run before = .ok earlier ∧ b.errors.Keeps earlier.errors := by
  obtain ⟨b, ran⟩ := run_ok (start s) steps compile
  have reports := (run_took ran).reports
  refine ⟨b, ran, ?_, ?_, ?_⟩
  · rw [build_ok_iff, (run_took ran).clean_iff]
    exact BuildStep.faultsOfAll_eq_nil_iff s false steps
  · intro e failed
    exact ⟨b.errors, build_error failed, reports⟩
  · rintro before after rfl
    rw [BuildStep.faultsOfAll_append] at reports
    obtain ⟨earlier, started⟩ := run_ok (start s) before fun model config mem =>
      compile model config (List.mem_append_left after mem)
    exact ⟨earlier, started, (run_took started).reports.keeps reports⟩

section

open Sample

-- The sort of the filter model resolves to nothing and opens no ordering; the unknown primary key
-- opens it all the same. Page size and search are set anew after they were faulty.
def faultySteps : List (BuildStep Kind ResultType Node) :=
  [.thenBy "Id" .ascending,
    .applyFilterModel { FilterModel.empty with sorts := [⟨"password", .ascending⟩] } .default,
    .thenBy "count" .descending, .orderBy "password" .descending, .thenBy "name" .ascending,
    .orderBy "Id" .ascending, .paginate 0 0, .paginate 1 5,
    .search "tea" ["note", "count", "secret"], .search "" [],
    .whereExpr (.not (.and [.null "owner.secret" true, .null "secret" true])),
    .whereExpr (.null "id" true)]

theorem faultySteps_reported :
    (∀ model config, .applyFilterModel model config ∈ faultySteps →
      ∃ e, FilterCompiler.compile ⟨nodes.schema, config⟩ model = .ok e) ∧
    ∃ b errors, (start nodes.schema).run faultySteps = .ok b ∧
      b.build = .error (.invalidSpecification errors) ∧
      errors.base = ["then_by requires a preceding order_by",
        "then_by requires a preceding order_by",
        "order_by may only be used once; use then_by for further keys"] ∧
      errors.get? "password" = some ["is not a field of Node"] ∧
      errors.get? "page_size" = some ["must be greater than zero"] ∧
      errors.get? "Count" = some ["is not a string field and cannot be searched"] ∧
      errors.get? "secret" = some ["is not a field of Node", "is not a field of Node"] := by
  have compile (model : FilterModel) (config : QueryConfig)
      (mem : .applyFilterModel model config ∈ faultySteps) :
      ∃ e, FilterCompiler.compile ⟨nodes.schema, config⟩ model = .ok e := by
    obtain ⟨rfl, rfl⟩ : model = { FilterModel.empty with sorts := [⟨"password", .ascending⟩] } ∧
        config = .default := by simpa [faultySteps] using mem
    exact ⟨.const true, rfl⟩
  have faults : BuildStep.faultsOfAll nodes.schema false faultySteps =
      [.base "then_by requires a preceding order_by",
        .base "then_by requires a preceding order_by",
        .field "password" "is not a field of Node",
        .base "order_by may only be used once; use then_by for further keys",
        .field "page_size" "must be greater than zero",
        .field "Count" "is not a string field and cannot be searched",
        .field "secret" "is not a field of Node", .field "owner.secret" "is not a field of Node",
        .field "secret" "is not a field of Node"] := by
    decide +kernel
  obtain ⟨b, ran, valid, reports, -⟩ := build_reports nodes.schema faultySteps compile
  cases built : b.build with
  | ok spec =>
    have first := valid.1 ⟨spec, built⟩ [] _ _ rfl
    exact absurd first.1 Bool.false_ne_true
  | error e =>
    obtain ⟨errors, rfl, reported⟩ := reports e built
    rw [faults] at reported
    exact ⟨compile, b, errors, ran, built, reported.base, (reported.fields _ _).2 (by decide),
      (reported.fields _ _).2 (by decide), (reported.fields _ _).2 (by decide),
      (reported.fields _ _).2 (by decide)⟩

end

end Builder

end EntityQuery
