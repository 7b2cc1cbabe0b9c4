import EntityQuery.Proofs.Repository.Narrowing
import EntityQuery.Proofs.Repository.Pages
import EntityQuery.Proofs.Repository.Visibility
import EntityQuery.Proofs.Specification.Faults
import EntityQuery.Sample.Projection

set_option autoImplicit false

namespace EntityQuery

variable {ι ρ α : Type} [ResultTypes ρ]

namespace Specification

def bare (e : Expr) : Specification ρ α :=
  { Specification.all with criteria := e }

theorem selects_bare (E : Entity ι α) (storeFilter : Option Expr) (e : Expr) (row : α) :
    (bare e : Specification ρ α).selects E storeFilter row =
      ((storeFilter.all fun e => E.satisfies e row) && E.satisfies e row) := by
  have shown : (bare e : Specification ρ α).ignoreStoreFilters = false := rfl
  have core : (bare e : Specification ρ α).toExpr = e := rfl
  have noSearch : (bare e : Specification ρ α).search = none := rfl
  rw [selects, shown, core, noSearch, Bool.false_or, Option.all_none, Bool.and_true]

end Specification

namespace Repository

variable {r : Repository ι α} {c : Composition ρ α} {e : Expr}

theorem findMany_unshaped {spec : Specification ρ α} (faultless : r.store.fault = none)
    (noIncludes : spec.includeOps = .ok [])
    (unshaped : spec.shape ++ spec.orderingOps ++ spec.windowOps = []) :
    r.findMany spec false =
      .ok (r.store.rows.filter (spec.selects r.entity r.store.storeFilter)) := by
  obtain ⟨q, prepared⟩ := r.prepare_of_no_includes noIncludes
  obtain ⟨rows, found⟩ := findMany_of_prepare prepared faultless
  rw [found, findMany_run found, unshaped]
  rfl

theorem findMany_bare (faultless : r.store.fault = none) :
    r.findMany (.bare e : Specification ρ α) false =
      .ok ((r.store.visible r.entity).filter (r.entity.satisfies e)) := by
  rw [findMany_unshaped faultless rfl rfl, Store.visible, List.filter_filter]
  refine congrArg Except.ok (List.filter_congr fun row _ => ?_)
  rw [Specification.selects_bare, Bool.and_comm]

theorem count_bare (r : Repository ι α) (e : Expr) (cancelled : Bool) :
    r.count (.bare e : Specification ρ α) cancelled =
      (r.findMany (.bare e : Specification ρ α) cancelled).map List.length := by
  have noWindow : (Specification.bare e : Specification ρ α).withoutPaging = .bare e := rfl
  rw [count_eq_length, noWindow]

theorem matching_of_known (known : c.toExpr.unknownFields r.entity.schema = []) :
    r.matching c = .ok (.bare (c.toExpr.mapFields (Expr.declaredPath r.entity.schema))) := by
  rw [matching, Builder.whereComposition, Builder.whereExpr,
    Builder.check_of_known (Builder.start r.entity.schema) known]
  rfl

theorem matching_of_unknown (unknown : c.toExpr.unknownFields r.entity.schema ≠ []) :
    ∃ errors, r.matching c = .error (.invalidSpecification errors) ∧
      errors.Reports ((c.toExpr.unknownFields r.entity.schema).map
        r.entity.schema.unknownField) := by
  have took := Builder.whereExpr_took (Builder.start r.entity.schema : Builder ι ρ α) c.toExpr
  cases built : r.matching c with
  | ok spec =>
    have clean := took.clean_iff.1 (Builder.build_ok built).1
    exact absurd (List.map_eq_nil_iff.1 clean) unknown
  | error e =>
    rw [Builder.build_error built]
    exact ⟨_, rfl, took.reports⟩

theorem findMatching_of_known (faultless : r.store.fault = none)
    (known : c.toExpr.unknownFields r.entity.schema = []) :
    r.findMatching c false = .ok ((r.store.visible r.entity).filter
      (r.entity.satisfies (c.toExpr.mapFields (Expr.declaredPath r.entity.schema)))) := by
  exact bind_ok_iff.2 ⟨_, matching_of_known known, findMany_bare faultless⟩

theorem countMatching_eq_length (r : Repository ι α) (c : Composition ρ α) (cancelled : Bool) :
    r.countMatching c cancelled = (r.findMatching c cancelled).map List.length := by
  rw [countMatching, findMatching]
  by_cases known : c.toExpr.unknownFields r.entity.schema = []
  next =>
    have matched := matching_of_known known
    rw [bind_of_ok matched, bind_of_ok matched, count_bare]
  next =>
    obtain ⟨errors, failed, -⟩ := matching_of_unknown (r := r) known
    rw [failed]
    rfl

theorem satisfies_negated (E : Entity ι α) (rename : String → String) (e : Expr) (row : α) :
    E.satisfies (e.negate.mapFields rename) row = !E.satisfies (e.mapFields rename) row := by
  simp only [Entity.satisfies, Expr.evaluate_mapFields, Expr.evaluate_negate]

theorem unresolved_iff :
    c.toExpr.unknownFields r.entity.schema ≠ [] ↔
      ∃ f ∈ c.toExpr.fields, r.entity.schema.resolvePath? f = none := by
  simp [Expr.unknownFields_eq_nil_iff]

structure TestsRows (r : Repository ι α) (c : Composition ρ α) : Prop where
  fails_iff : (∃ errors, r.findMatching c false = .error (.invalidSpecification errors)) ↔
    ∃ f ∈ c.toExpr.fields, r.entity.schema.resolvePath? f = none
  blames : ∀ e, r.findMatching c false = .error e → ∃ errors, e = .invalidSpecification errors ∧
    errors.base = [] ∧ (errors.fields.map Prod.fst).Nodup ∧
    ∀ f messages, errors.get? f = some messages ↔
      (f ∈ c.toExpr.fields ∧ r.entity.schema.resolvePath? f = none) ∧
        messages = List.replicate (c.toExpr.fields.count f)
          ("is not a field of " ++ r.entity.schema.name)
  finds : (∀ f ∈ c.toExpr.fields, r.entity.schema.resolvePath? f ≠ none) →
    ∃ declared, c.toExpr.canonicalize r.entity.schema = .ok declared ∧
      r.findMatching c false =
        .ok ((r.store.visible r.entity).filter (r.entity.satisfies declared))
  finds_satisfying : (∀ f ∈ c.toExpr.fields, r.entity.schema.Declares f) →
    r.findMatching c false =
      .ok ((r.store.visible r.entity).filter (r.entity.satisfies c.toExpr))
  counts : r.countMatching c false = (r.findMatching c false).map List.length
  divides : ∀ total, r.countMatching c false = .ok total → ∃ others,
    r.countMatching (.not c) false = .ok others ∧
      total + others = (r.store.visible r.entity).length

theorem countMatching_of_known (faultless : r.store.fault = none)
    (known : c.toExpr.unknownFields r.entity.schema = []) :
    r.countMatching c false = .ok ((r.store.visible r.entity).filter
      (r.entity.satisfies (c.toExpr.mapFields (Expr.declaredPath r.entity.schema)))).length := by
  rw [countMatching_eq_length, findMatching_of_known faultless known]
  rfl

theorem countMatching_not (faultless : r.store.fault = none)
    (known : c.toExpr.unknownFields r.entity.schema = []) {total : Nat}
    (counted : r.countMatching c false = .ok total) :
    ∃ others, r.countMatching (.not c) false = .ok others ∧
      total + others = (r.store.visible r.entity).length := by
  have negated : (Composition.not c).toExpr = c.toExpr.negate := rfl
  have stillKnown : (Composition.not c).toExpr.unknownFields r.entity.schema = [] := by
    rw [negated, Expr.unknownFields, Expr.fields_negate]
    exact known
  rw [countMatching_of_known faultless known] at counted
  obtain rfl := Except.ok.inj counted
  refine ⟨_, countMatching_of_known faultless stillKnown, ?_⟩
  rw [negated, funext (satisfies_negated r.entity _ c.toExpr)]
  exact (List.length_eq_length_filter_add _).symm

theorem testsRows_of_known (faultless : r.store.fault = none)
    (known : c.toExpr.unknownFields r.entity.schema = []) : r.TestsRows c := by
  have found := findMatching_of_known faultless known
  refine ⟨?_, ?_, fun _ => ⟨_, Expr.canonicalize_of_known known, found⟩, fun declares => ?_,
    r.countMatching_eq_length c false, fun _ => countMatching_not faultless known⟩
  · rw [← unresolved_iff, found]
    simp [known]
  · rw [found]
    exact nofun
  · rw [found, Expr.mapFields_eq_self _ fun f mem => Schema.declaredPath_of_declares (declares f mem)]

theorem testsRows_of_unknown (unknown : c.toExpr.unknownFields r.entity.schema ≠ []) :
    r.TestsRows c := by
  obtain ⟨errors, failed, reports⟩ := matching_of_unknown unknown
  have fails : r.findMatching c false = .error (.invalidSpecification errors) := by
    rw [findMatching, failed]
    rfl
  obtain ⟨f, mem, unresolved⟩ := unresolved_iff.1 unknown
  refine ⟨⟨fun _ => ⟨f, mem, unresolved⟩, fun _ => ⟨errors, fails⟩⟩, fun e failure => ?_,
    fun resolve => absurd unresolved (resolve f mem), fun declares => ?_,
    r.countMatching_eq_length c false, fun total counted => ?_⟩
  · obtain rfl := Except.error.inj (fails.symm.trans failure)
    refine ⟨errors, rfl, ?_, reports.once, fun f messages => ?_⟩
    · rw [reports.base, Schema.unknownField_base]
    · rw [reports.fields, Schema.unknownField_messages]
      by_cases blamed : f ∈ c.toExpr.fields ∧ r.entity.schema.resolvePath? f = none
      next =>
        have occurs : c.toExpr.fields.count f ≠ 0 := (List.count_pos_iff.2 blamed.1).ne'
        rw [Expr.count_unknownFields blamed.2, and_congr_left_iff]
        rintro rfl
        simp [blamed, occurs]
      next =>
        have absent := List.count_eq_zero.2 (mt Expr.mem_unknownFields_iff.1 blamed)
        rw [absent]
        simp [blamed]
  · obtain ⟨field, resolved, -⟩ := declares f mem
    rw [unresolved] at resolved
    cases resolved
  · rw [countMatching_eq_length, fails] at counted
    cases counted

theorem matching_testsRows (r : Repository ι α) (faultless : r.store.fault = none)
    (c : Composition ρ α) : r.TestsRows c := by
  by_cases known : c.toExpr.unknownFields r.entity.schema = []
  next => exact testsRows_of_known faultless known
  next => exact testsRows_of_unknown known

section

open Sample

-- A number that is not equal to itself, none at all, and a hidden row.
def ratios : Repository Kind Counter where
  entity := counters
  store := (Store.ofRows [⟨1, some .zero⟩, ⟨2, some (.quietNaN false)⟩, ⟨3, none⟩,
    ⟨40, some .zero⟩]).withStoreFilter (.compare "Id" .lt (.integer 9))
  config := .default

-- It holds of what does not compare with zero.
def notPositive : Composition ResultType Counter :=
  .and (.not (.named "positive" (.compare "Ratio" .gt (.float .zero))))
    (.specification { Specification.all with
      criteria := .null "Id" true
      additionalCriteria := [.compare "Id" .ne (.integer 1)] })

def secretTwice : Composition ResultType Counter :=
  .or (.predicate (.null "secret" false)) (.not (.predicate (.and [.null "id" true,
    .null "secret" true])))

theorem ratios_testsRows :
    ratios.store.fault = none ∧
      ratios.findMatching notPositive false = .ok [⟨2, some (.quietNaN false)⟩, ⟨3, none⟩] ∧
      [⟨2, some (.quietNaN false)⟩, ⟨3, none⟩] =
        (ratios.store.visible counters).filter (counters.satisfies notPositive.toExpr) ∧
      (∃ others, ratios.countMatching (.not notPositive) false = .ok others ∧ 2 + others = 3) ∧
      ∃ errors, ratios.findMatching secretTwice false = .error (.invalidSpecification errors) ∧
        errors.get? "secret" =
          some ["is not a field of Counter", "is not a field of Counter"] := by
  have tested := matching_testsRows ratios rfl notPositive
  have found : ratios.findMatching notPositive false =
      .ok [⟨2, some (.quietNaN false)⟩, ⟨3, none⟩] := rfl
  have declares : ∀ f ∈ notPositive.toExpr.fields, counters.schema.Declares f := by
    have fields : notPositive.toExpr.fields = ["Ratio", "Id", "Id"] := rfl
    rw [fields, List.forall_mem_cons, List.forall_mem_cons, List.forall_mem_singleton]
    exact ⟨⟨_, rfl, rfl⟩, ⟨_, rfl, rfl⟩, ⟨_, rfl, rfl⟩⟩
  have satisfying := found.symm.trans (tested.finds_satisfying declares)
  have counted : ratios.countMatching notPositive false = .ok 2 := by
    rw [tested.counts, found]
    rfl
  have unknown := matching_testsRows ratios rfl secretTwice
  obtain ⟨errors, failed⟩ := unknown.fails_iff.2 ⟨"secret", by decide, rfl⟩
  obtain ⟨_, same, -, -, blamed⟩ := unknown.blames _ failed
  cases same
  exact ⟨rfl, found, Except.ok.inj satisfying, tested.divides 2 counted, errors, failed,
    (blamed _ _).2 ⟨⟨by decide, rfl⟩, rfl⟩⟩

end

end Repository

end EntityQuery
