import EntityQuery.Proofs.Plan.Faults
import EntityQuery.Proofs.Specification.WellFormed
import EntityQuery.Sample.Projection
import EntityQuery.Sample.Record

set_option autoImplicit false

namespace EntityQuery

variable {ι ρ α : Type} [ResultTypes ρ]

namespace Specification

def tooDeep? (spec : Specification ρ α) : Option IncludeNode :=
  spec.includeChains.find? fun root => maxChainDepth < root.depth

variable {s : Schema ι} {spec : Specification ρ α}

theorem LinksDeclared.resolve (declared : spec.LinksDeclared s)
    (navigable : Schema.Navigable s.family) :
    ∀ path ∈ spec.includePaths, ∃ links, s.resolveRelations? path = some links := by
  rw [includePaths, List.forall_mem_append, List.forall_mem_append, List.forall_mem_map]
  refine ⟨⟨?_, ?_⟩, ?_⟩
  · intro node mem
    have link := (declared.includes node mem).2
    exact link.resolves navigable node.path (by simp [node.linkPaths_eq])
  · intro path mem
    obtain ⟨node, chain, inside⟩ := List.mem_flatMap.1 mem
    exact (declared.includeChains node chain).resolves navigable path inside
  · intro path mem
    obtain ⟨links, resolved, -⟩ := declared.includeStrings path mem
    exact ⟨links, resolved⟩

theorem LinksDeclared.refusedLink (declared : spec.LinksDeclared s) :
    spec.refusedLink? = spec.tooDeep?.map fun root =>
      .unsupportedShape root.path "chain deeper than 8 links" := by
  have single : (spec.includes.findSome? fun node => errorOf? node.resolve) = none := by
    rw [List.findSome?_eq_none_iff]
    intro node mem
    cases (declared.includes node mem).2 with
    | node link _ =>
      rw [link.resolve]
      rfl
  rw [refusedLink?, single, Option.none_or, tooDeep?]
  have each := declared.includeChains
  generalize spec.includeChains = chains at each ⊢
  induction chains with
  | nil => rfl
  | cons node nodes ih =>
    obtain ⟨own, later⟩ := List.forall_mem_cons.1 each
    rw [List.findSome?_cons, own.resolveChain_error, List.find?_cons]
    by_cases deep : maxChainDepth < node.depth
    next => simp [deep]
    next => simpa [deep] using ih later

theorem LinksDeclared.compile_tooDeep (declared : spec.LinksDeclared s) {root : IncludeNode}
    (deep : spec.tooDeep? = some root) :
    spec.compile =
      .error (.chain (.unsupportedShape root.path "chain deeper than 8 links")) := by
  have refused := spec.includeOps_error
  rw [declared.refusedLink, deep, Option.map_some, errorOf?_eq_some_iff] at refused
  rw [compile, refused]

theorem LinksDeclared.compile_ok (declared : spec.LinksDeclared s)
    (shallow : spec.tooDeep? = none) :
    ∃ plan, spec.compile = .ok plan ∧
      (plan.map PlanOp.refinement).filterMap Refinement.path? = spec.includePaths := by
  have resolved := spec.includeOps_error
  rw [declared.refusedLink, shallow, Option.map_none, errorOf?_eq_none_iff] at resolved
  obtain ⟨includes, resolved⟩ := resolved
  obtain ⟨plan, compiles⟩ := compile_of_includeOps resolved
  exact ⟨plan, compiles, (compile_paths resolved compiles).trans (includeOps_paths resolved)⟩

end Specification

namespace Builder

/--
Of what is accepted, only a chain that is too deep fails to compile, and the first such chain is
named. Every other plan applies to any query, and loads just the links that were asked for.
-/
theorem accepted_compiles {E : Entity ι α} (navigable : Schema.Navigable E.schema.family)
    {steps : List (BuildStep ι ρ α)} {b : Builder ι ρ α} {spec : Specification ρ α}
    (ran : (start E.schema).run steps = .ok b) (built : b.build = .ok spec) :
    ((∃ e, spec.compile = .error e) ↔
        ∃ root ∈ spec.includeChains, maxChainDepth < root.depth) ∧
      match spec.tooDeep? with
      | some root => spec.compile =
          .error (.chain (.unsupportedShape root.path "chain deeper than 8 links"))
      | none => ∃ plan, spec.compile = .ok plan ∧ ∀ q : Query α, ∃ q',
          plan.apply E q = .ok q' ∧ q'.includes = q.includes ++ spec.includePaths := by
  obtain ⟨clean, rfl⟩ := build_ok built
  have declared := (run_sound (start_sound E.schema) ran).links clean
  have deep : (∃ root ∈ b.spec.includeChains, maxChainDepth < root.depth) ↔
      b.spec.tooDeep?.isSome = true := by
    simp [Specification.tooDeep?]
  rw [deep]
  cases first : b.spec.tooDeep? with
  | some root => simp [declared.compile_tooDeep first]
  | none =>
    obtain ⟨plan, compiles, paths⟩ := declared.compile_ok first
    refine ⟨by simp [compiles], plan, compiles, fun q => ?_⟩
    -- The paths of the plan are those that were asked for, and the root knows each of them.
    rw [← paths]
    apply Query.refineAll_ok
    rw [paths]
    exact declared.resolve navigable

section

open Sample

theorem family_navigable : Schema.Navigable family where
  distinct i j h := by
    cases i <;> cases j <;> first | rfl | exact absurd h (by decide)
  nonempty i := by cases i <;> decide
  dotFree i := by cases i <;> decide

-- A link, a chain that branches and a path, most of them in odd spelling.
def linkSteps : List (BuildStep Kind ResultType Node) :=
  [.includePath "products.REVIEWS",
    .includeChain ⟨⟨"PARENT", .reference, .node⟩,
      [⟨⟨"products", .collection, .product⟩, [⟨⟨"Reviews", .collection, .review⟩, []⟩]⟩,
        ⟨⟨"Owner", .reference, .customer⟩, []⟩]⟩,
    .includeRelation ⟨"children", .collection, .node⟩]

def linkStepPaths : List String :=
  ["children", "PARENT", "PARENT.products", "PARENT.products.Reviews", "PARENT.Owner",
    "Products.Reviews"]

theorem linkSteps_compile :
    ∃ (b : Builder Kind ResultType Node) (spec : Specification ResultType Node) (plan : Plan),
      Schema.Navigable nodes.schema.family ∧ (start nodes.schema).run linkSteps = .ok b ∧
      b.build = .ok spec ∧ spec.compile = .ok plan ∧
      ∀ q : Query Node, ∃ q', plan.apply nodes q = .ok q' ∧
        q'.includes = q.includes ++ linkStepPaths := by
  have built : (match (start nodes.schema).run linkSteps with
      | .ok b => b.errors.isEmpty && b.spec.tooDeep?.isNone && b.spec.includePaths == linkStepPaths
      | .error _ => false) = true := by
    decide +kernel
  cases ran : (start nodes.schema).run linkSteps with
  | error _ => simp [ran] at built
  | ok b =>
    simp only [ran, Bool.and_eq_true, beq_iff_eq, Option.isNone_iff_eq_none] at built
    obtain ⟨⟨clean, shallow⟩, paths⟩ := built
    have accepted : b.build = .ok b.spec := if_pos clean
    have outcome := (accepted_compiles (E := nodes) family_navigable ran accepted).2
    rw [shallow, paths] at outcome
    obtain ⟨plan, compiles, applies⟩ := outcome
    exact ⟨b, b.spec, plan, family_navigable, rfl, accepted, compiles, applies⟩

end

end Builder

end EntityQuery
