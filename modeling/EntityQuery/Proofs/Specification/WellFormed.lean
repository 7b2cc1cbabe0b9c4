import EntityQuery.Proofs.Filter.Whitelist
import EntityQuery.Proofs.Include.Declared
import EntityQuery.Proofs.Specification.Faults
import EntityQuery.Sample.Projection

set_option autoImplicit false

namespace EntityQuery

variable {ι ρ α : Type} [ResultTypes ρ]

namespace Specification

structure LinksDeclared (s : Schema ι) (spec : Specification ρ α) : Prop where
  includes : ∀ node ∈ spec.includes, node.children = [] ∧ node.Declared s.family s.root
  includeChains : ∀ node ∈ spec.includeChains, node.Declared s.family s.root
  includeStrings : ∀ path ∈ spec.includeStrings, ∃ links, s.resolveRelations? path = some links ∧
    path = Text.join "." (links.map RelationDescriptor.name)

structure WellFormed (s : Schema ι) (spec : Specification ρ α) : Prop
    extends LinksDeclared s spec where
  criteria : ∀ f ∈ spec.criteria.fields, s.Declares f
  additionalCriteria : ∀ e ∈ spec.additionalCriteria, ∀ f ∈ e.fields, s.Declares f
  orderings : ∀ c ∈ spec.orderings, s.Declares c.field
  groupKey : ∀ key ∈ spec.groupKey, s.Declares key
  searchTerm : ∀ clause ∈ spec.search, Text.trim clause.term = clause.term ∧ clause.term ≠ ""
  searchFields : ∀ clause ∈ spec.search, ∀ f ∈ clause.fields,
    ∃ r, s.resolvePath? f = some r ∧ r.path = f ∧ r.descriptor.type = .string
  take : spec.take ≠ some 0
  limit : spec.limit ≠ some 0
  tag : ∀ mark ∈ spec.tag, Text.isBlankText mark = false

theorem all_wellFormed (s : Schema ι) : (all : Specification ρ α).WellFormed s := by
  constructor <;> simp [all, Expr.fields, take]
  constructor <;> simp

end Specification

namespace FilterCompiler

variable (c : FilterCompiler ι)

theorem compile_declares (named : c.schema.WellNamed) {model : FilterModel} {e : Expr}
    (compiled : c.compile model = .ok e) : ∀ f ∈ e.fields, c.schema.Declares f := by
  intro f mem
  rw [Expr.fields_eq_leaves] at mem
  obtain ⟨leaf, inside, own⟩ := List.mem_flatMap.1 mem
  obtain ⟨⟨p, r, field, resolved, path, -⟩, -⟩ := c.compile_leaves named compiled inside
  rw [field, List.mem_singleton] at own
  subst own
  exact ⟨r, resolved, path⟩

theorem compileSorts_declares (sorts : List SortItem) :
    ∀ criterion ∈ c.compileSorts sorts, c.schema.Declares criterion.field := by
  intro criterion mem
  obtain ⟨request, -, r, -, rfl, resolved, -⟩ :=
    exists_of_mem_forall₂ (c.compileSorts_orders sorts) mem
  exact ⟨r, resolved, rfl⟩

end FilterCompiler

namespace Builder

variable {s : Schema ι} {b b' : Builder ι ρ α}

structure Sound (s : Schema ι) (b : Builder ι ρ α) : Prop where
  schema : b.schema = s
  -- Links do not depend on how fields are named, the other parts do.
  links : b.errors.isEmpty = true → b.spec.LinksDeclared s
  wellFormed : b.errors.isEmpty = true → s.WellNamed → b.spec.WellFormed s

theorem start_sound (s : Schema ι) : Sound s (start s : Builder ι ρ α) where
  schema := rfl
  links _ := (Specification.all_wellFormed s).toLinksDeclared
  wellFormed _ _ := Specification.all_wellFormed s

theorem Sound.noteAll (h : Sound s b) (faults : List Fault) : Sound s (b.noteAll faults) where
  schema := h.schema
  links clean := h.links (noteAll_clean_iff.1 clean).1
  wellFormed clean := h.wellFormed (noteAll_clean_iff.1 clean).1

theorem Sound.addError (h : Sound s b) (field message : String) :
    Sound s (b.addError field message) :=
  h.noteAll [.field field message]

theorem Sound.addBaseError (h : Sound s b) (message : String) : Sound s (b.addBaseError message) :=
  h.noteAll [.base message]

theorem Sound.of_dirty (schema : b.schema = s) (dirty : b.errors.isEmpty = false) :
    Sound s b where
  schema := schema
  links clean := by simp [dirty] at clean
  wellFormed clean := by simp [dirty] at clean

theorem Sound.update (h : Sound s b) (schema : b'.schema = b.schema)
    (errors : b'.errors = b.errors)
    (links : b.errors.isEmpty = true → b.spec.LinksDeclared s → b'.spec.LinksDeclared s)
    (wellFormed : b.errors.isEmpty = true → s.WellNamed → b.spec.WellFormed s →
      b'.spec.WellFormed s) : Sound s b' where
  schema := schema.trans h.schema
  links clean := links (errors ▸ clean) (h.links (errors ▸ clean))
  wellFormed clean named :=
    wellFormed (errors ▸ clean) named (h.wellFormed (errors ▸ clean) named)

theorem check_sound (h : Sound s b) (e : Expr) : Sound s (b.check e).1 :=
  check_notes b e ▸ h.noteAll _

theorem whereExpr_sound (h : Sound s b) (e : Expr) : Sound s (b.whereExpr e) := by
  obtain rfl := h.schema
  exact (check_sound h e).update rfl rfl (fun _ old => { old with })
    fun clean _ old => { old with criteria := check_declares clean }

theorem andWhere_sound (h : Sound s b) (e : Expr) : Sound s (b.andWhere e) := by
  obtain rfl := h.schema
  exact (check_sound h e).update rfl rfl (fun _ old => { old with }) fun clean _ old =>
    { old with
      additionalCriteria := List.forall_mem_append.2
        ⟨old.additionalCriteria, List.forall_mem_singleton.2 (check_declares clean)⟩ }

theorem includeRelation_sound (h : Sound s b) (r : Relation ι) :
    Sound s (b.includeRelation r) := by
  obtain rfl := h.schema
  by_cases declared : r.isDeclared b.schema = true
  next =>
    have link := Relation.toNode_linkDeclared declared
    have node : (r.toNode b.schema).Declared b.schema.family b.schema.root :=
      .node link (List.forall_mem_nil _)
    have links (old : b.spec.LinksDeclared b.schema) : Specification.LinksDeclared b.schema
        { b.spec with includes := b.spec.includes ++ [r.toNode b.schema] } :=
      { old with
        includes := List.forall_mem_append.2
          ⟨old.includes, List.forall_mem_singleton.2 ⟨rfl, node⟩⟩ }
    rw [includeRelation, if_pos declared]
    exact h.update rfl rfl (fun _ => links)
      fun _ _ old => { old with toLinksDeclared := links old.toLinksDeclared }
  next =>
    rw [includeRelation, if_neg declared]
    exact .of_dirty rfl (b.errors.isEmpty_note (.field "include" _))

theorem includeChain_sound (h : Sound s b) (chain : Chain ι) : Sound s (b.includeChain chain) := by
  obtain rfl := h.schema
  rw [includeChain, foldl_addError]
  -- The chain is kept in any case; it is declared if nothing was noted of it.
  have links (clean : (b.noteAll ((chain.undeclared b.schema).map fun link =>
        .field "include" (link ++ " is not a declared navigation"))).errors.isEmpty = true)
      (old : b.spec.LinksDeclared b.schema) : Specification.LinksDeclared b.schema
        { b.spec with includeChains := b.spec.includeChains ++ [chain.toNode b.schema] } :=
    { old with
      includeChains := List.forall_mem_append.2
        ⟨old.includeChains, List.forall_mem_singleton.2 (chain.toNode_declared b.schema
          (List.map_eq_nil_iff.1 (noteAll_clean_iff.1 clean).2))⟩ }
  exact (h.noteAll _).update rfl rfl links
    fun clean _ old => { old with toLinksDeclared := links clean old.toLinksDeclared }

theorem includePath_sound (h : Sound s b) (path : String) : Sound s (b.includePath path) := by
  obtain rfl := h.schema
  rw [includePath]
  split
  next found resolved =>
    have links (old : b.spec.LinksDeclared b.schema) : Specification.LinksDeclared b.schema
        { b.spec with
          includeStrings := b.spec.includeStrings ++
            [Text.join "." (found.map RelationDescriptor.name)] } :=
      { old with
        includeStrings := List.forall_mem_append.2
          ⟨old.includeStrings, List.forall_mem_singleton.2
            ⟨found, Schema.resolveRelations?_declared resolved, rfl⟩⟩ }
    exact h.update rfl rfl (fun _ => links)
      fun _ _ old => { old with toLinksDeclared := links old.toLinksDeclared }
  next => exact h.addError _ _

theorem pushOrdering_sound (h : Sound s b) (field : String) (direction : SortDirection) :
    Sound s (b.pushOrdering field direction) := by
  obtain rfl := h.schema
  rw [pushOrdering]
  split
  next path resolved =>
    exact h.update rfl rfl (fun _ old => { old with }) fun _ _ old =>
      { old with
        orderings := List.forall_mem_append.2 ⟨old.orderings, List.forall_mem_singleton.2
          (Schema.declares_of_canonicalPath? resolved)⟩ }
  next => exact h.addError _ _

theorem orderBy_sound (h : Sound s b) (field : String) (direction : SortDirection) :
    Sound s (b.orderBy field direction) := by
  apply pushOrdering_sound
  split
  · exact { h.addBaseError _ with }
  · exact { h with }

theorem thenBy_sound (h : Sound s b) (field : String) (direction : SortDirection) :
    Sound s (b.thenBy field direction) := by
  apply pushOrdering_sound
  split
  · exact h
  · exact h.addBaseError _

theorem paginate_sound (h : Sound s b) (pageIndex pageSize : Count) :
    Sound s (b.paginate pageIndex pageSize) := by
  rw [paginate]
  split
  next => exact h.addError _ _
  next sized =>
    exact h.update rfl rfl (fun _ old => { old with })
      fun _ _ old => { old with take := fun zero => sized (Option.some.inj zero) }

theorem skip_sound (h : Sound s b) (count : Count) : Sound s (b.skip count) := by
  -- A window that was there keeps its size, and a new one has none.
  have kept : (b.skip count).spec.take = b.spec.take := by
    simp only [skip, window, Specification.take]
    cases b.spec.paging <;> rfl
  exact h.update rfl rfl (fun _ old => { old with })
    fun _ _ old => { old with take := kept ▸ old.take }

theorem take_sound (h : Sound s b) (count : Count) : Sound s (b.take count) := by
  rw [take]
  split
  next => exact h.addError _ _
  next sized =>
    exact h.update rfl rfl (fun _ old => { old with })
      fun _ _ old => { old with take := fun zero => sized (Option.some.inj zero) }

theorem limit_sound (h : Sound s b) (count : Count) : Sound s (b.limit count) := by
  rw [limit]
  split
  next => exact h.addError _ _
  next sized =>
    exact h.update rfl rfl (fun _ old => { old with })
      fun _ _ old => { old with limit := fun zero => sized (Option.some.inj zero) }

theorem groupBy_sound (h : Sound s b) (field : String) : Sound s (b.groupBy field) := by
  obtain rfl := h.schema
  rw [groupBy]
  split
  next path resolved =>
    refine h.update rfl rfl (fun _ old => { old with })
      fun _ _ old => { old with groupKey := ?_ }
    intro key mem
    obtain rfl := Option.some.inj mem
    exact Schema.declares_of_canonicalPath? resolved
  next => exact h.addError _ _

theorem tag_sound (h : Sound s b) (mark : String) : Sound s (b.tag mark) := by
  rw [tag]
  split
  next => exact h.addError _ _
  next marked =>
    refine h.update rfl rfl (fun _ old => { old with }) fun _ _ old => { old with tag := ?_ }
    intro mark mem
    obtain rfl := Option.some.inj mem
    simpa using marked

theorem Sound.searching (h : Sound s b) {term : String} {paths : List String}
    (trimmed : Text.trim term = term ∧ term ≠ "")
    (strings : b.errors.isEmpty = true → s.WellNamed → ∀ f ∈ paths,
      ∃ r, s.resolvePath? f = some r ∧ r.path = f ∧ r.descriptor.type = .string) :
    Sound s { b with spec := { b.spec with search := some ⟨term, paths⟩ } } := by
  refine h.update rfl rfl (fun _ old => { old with })
    fun clean named old => { old with searchTerm := ?_, searchFields := ?_ }
  · intro clause mem
    obtain rfl := Option.some.inj mem
    exact trimmed
  · intro clause mem
    obtain rfl := Option.some.inj mem
    exact strings clean named

theorem search_sound (h : Sound s b) (term : String) (fields : List String) :
    Sound s (b.search term fields) := by
  obtain rfl := h.schema
  rw [search]
  by_cases blank : Text.isBlankText (Text.trim term) = true
  next =>
    rw [if_pos blank]
    have noClause (clause : SearchClause) : clause ∉ none := Option.not_mem_none clause
    exact h.update rfl rfl (fun _ old => { old with }) fun _ _ old =>
      { old with
        searchTerm := fun clause mem => absurd mem (noClause clause)
        searchFields := fun clause mem => absurd mem (noClause clause) }
  next =>
    have trimmed : Text.trim (Text.trim term) = Text.trim term ∧ Text.trim term ≠ "" :=
      ⟨Text.trim_trim term, by simpa [Text.isBlankText] using blank⟩
    rw [if_neg blank]
    by_cases given : fields.isEmpty = true
    next =>
      rw [if_pos given]
      exact h.searching trimmed fun _ named f mem => Schema.stringFields_resolve named mem
    next =>
      rw [if_neg given]
      have noted : Sound b.schema (b.searchFields fields).1 :=
        searchFields_notes fields b ▸ h.noteAll _
      exact noted.searching trimmed fun _ _ => searchFields_strings fields

theorem applyFilterModel_ok {model : FilterModel} {config : QueryConfig}
    (applied : b.applyFilterModel model config = .ok b') :
    ∃ e, FilterCompiler.compile ⟨b.schema, config⟩ model = .ok e ∧ b'.schema = b.schema ∧
      b'.errors = b.errors ∧ b'.spec =
        { b.spec with
          additionalCriteria :=
            if e.isTrue then b.spec.additionalCriteria else b.spec.additionalCriteria ++ [e]
          orderings := b.spec.orderings ++
            FilterCompiler.compileSorts ⟨b.schema, config⟩ model.sorts } := by
  rw [applyFilterModel, bind_ok_iff] at applied
  obtain ⟨e, compiled, rest⟩ := applied
  obtain rfl := pure_ok_iff.1 rest
  exact ⟨e, compiled, rfl, rfl, rfl⟩

theorem applyFilterModel_sound (h : Sound s b) {model : FilterModel} {config : QueryConfig}
    (applied : b.applyFilterModel model config = .ok b') : Sound s b' := by
  obtain rfl := h.schema
  obtain ⟨e, compiled, schema, errors, spec⟩ := applyFilterModel_ok applied
  refine h.update schema errors (fun _ old => ?_) fun _ named old => ?_
  · rw [spec]
    exact { old with }
  · rw [spec]
    refine { old with additionalCriteria := ?_, orderings := ?_ }
    · dsimp only
      split
      · exact old.additionalCriteria
      · exact List.forall_mem_append.2 ⟨old.additionalCriteria, List.forall_mem_singleton.2
          (FilterCompiler.compile_declares ⟨b.schema, config⟩ named compiled)⟩
    · exact List.forall_mem_append.2 ⟨old.orderings,
        FilterCompiler.compileSorts_declares ⟨b.schema, config⟩ model.sorts⟩

theorem step_sound (h : Sound s b) {step : BuildStep ι ρ α} (done : b.step step = .ok b') :
    Sound s b' := by
  cases step with
  | applyFilterModel model config => exact applyFilterModel_sound h done
  | whereExpr e => exact Except.ok.inj done ▸ whereExpr_sound h e
  | whereComposition c => exact Except.ok.inj done ▸ whereExpr_sound h c.toExpr
  | andWhere e => exact Except.ok.inj done ▸ andWhere_sound h e
  | includeRelation r => exact Except.ok.inj done ▸ includeRelation_sound h r
  | includeChain chain => exact Except.ok.inj done ▸ includeChain_sound h chain
  | includePath path => exact Except.ok.inj done ▸ includePath_sound h path
  | orderBy field direction => exact Except.ok.inj done ▸ orderBy_sound h field direction
  | thenBy field direction => exact Except.ok.inj done ▸ thenBy_sound h field direction
  | paginate pageIndex pageSize => exact Except.ok.inj done ▸ paginate_sound h pageIndex pageSize
  | page request => exact Except.ok.inj done ▸ paginate_sound h request.pageIndex request.pageSize
  | skip count => exact Except.ok.inj done ▸ skip_sound h count
  | take count => exact Except.ok.inj done ▸ take_sound h count
  | limit count => exact Except.ok.inj done ▸ limit_sound h count
  | groupBy field => exact Except.ok.inj done ▸ groupBy_sound h field
  | tag mark => exact Except.ok.inj done ▸ tag_sound h mark
  | search term fields => exact Except.ok.inj done ▸ search_sound h term fields
  -- These only set what no part of the invariant looks at.
  | distinct | tracking | ignoreStoreFilters | splitFetch | select =>
    obtain rfl := Except.ok.inj done
    exact h.update rfl rfl (fun _ old => { old with }) fun _ _ old => { old with }

theorem run_sound (h : Sound s b) {steps : List (BuildStep ι ρ α)} (ran : b.run steps = .ok b') :
    Sound s b' := by
  induction steps generalizing b with
  | nil =>
    cases ran
    exact h
  | cons step steps ih =>
    rw [run, List.foldlM_cons, bind_ok_iff] at ran
    obtain ⟨next, done, rest⟩ := ran
    exact ih (step_sound h done) rest

theorem build_wellFormed {s : Schema ι} (named : s.WellNamed) {steps : List (BuildStep ι ρ α)}
    {b : Builder ι ρ α} {spec : Specification ρ α} (ran : (start s).run steps = .ok b)
    (built : b.build = .ok spec) : spec.WellFormed s := by
  obtain ⟨clean, rfl⟩ := build_ok built
  exact (run_sound (start_sound s) ran).wellFormed clean named

section

open Sample

-- Parts of every kind, some of them replaced later, and most of them in odd spelling.
def nodeSteps : List (BuildStep Kind ResultType Node) :=
  [.whereExpr (.null "COUNT" true), .whereExpr (.compare "owner.TIER" .eq (.string "Gold")),
    .applyFilterModel
      { FilterModel.empty with
        items := [⟨"count", ">=", some "2"⟩]
        sorts := [⟨"stamp", .ascending⟩, ⟨"password", .ascending⟩] }
      .default,
    .includeRelation ⟨"children", .collection, .node⟩,
    .includeChain ⟨⟨"products", .collection, .product⟩, [⟨⟨"Reviews", .collection, .review⟩, []⟩]⟩,
    .includePath "parent.OWNER", .thenBy "unit_price" .descending, .groupBy "OWNER.id",
    .search "\ttea " [], .paginate 3 20, .take 2, .tag "sample"]

theorem build_nodeSteps :
    ∃ (b : Builder Kind ResultType Node) (spec : Specification ResultType Node),
      nodes.schema.WellNamed ∧
      (start nodes.schema).run nodeSteps = .ok b ∧ b.build = .ok spec ∧
      spec.WellFormed nodes.schema ∧
      spec.orderings.map SortCriterion.field = ["Stamp", "Unit_Price"] ∧
      spec.includeStrings = ["Parent.Owner"] ∧ spec.groupKey = some "Owner.Id" ∧
      spec.searchTerm = some "tea" := by
  have named : nodes.schema.WellNamed := fun kind _ => family_wellNamed kind
  have built : (match (start nodes.schema).run nodeSteps with
      | .ok b => b.errors.isEmpty &&
        b.spec.orderings.map SortCriterion.field == ["Stamp", "Unit_Price"] &&
        b.spec.includeStrings == ["Parent.Owner"] && b.spec.groupKey == some "Owner.Id" &&
        b.spec.searchTerm == some "tea"
      | .error _ => false) = true := by
    decide +kernel
  cases ran : (start nodes.schema).run nodeSteps with
  | error _ => simp [ran] at built
  | ok b =>
    simp only [ran, Bool.and_eq_true, beq_iff_eq] at built
    obtain ⟨⟨⟨⟨clean, orderings⟩, strings⟩, key⟩, term⟩ := built
    have accepted : b.build = .ok b.spec := if_pos clean
    exact ⟨b, b.spec, named, rfl, accepted, build_wellFormed named ran accepted, orderings,
      strings, key, term⟩

end

end Builder

end EntityQuery
