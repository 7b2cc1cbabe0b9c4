import EntityQuery.Proofs.Expr.Json
import EntityQuery.Proofs.Include.Json
import EntityQuery.Sample.Projection
import EntityQuery.Specification.Json

set_option autoImplicit false

namespace EntityQuery

open Json

theorem SortDirection.ofJson?_toJson (d : SortDirection) : ofJson? d.toJson = some d := by
  cases d <;> rfl

theorem SortCriterion.ofJson?_toJson (c : SortCriterion) : ofJson? c.toJson = some c := by
  simp [toJson, ofJson?, SortDirection.ofJson?_toJson]

theorem TrackingMode.ofJson?_name (m : TrackingMode) : ofJson? (string m.name) = some m := by
  cases m <;> rfl

theorem Paging.ofJson?_toJson (p : Paging) : ofJson? p.toJson = some p := by
  obtain ⟨skip, take⟩ := p
  cases take with
  | none => simp [toJson, ofJson?, lookup, asCount?_ofCount]
  | some n =>
    have read : asOption? asCount? (ofCount n) = some (some n) :=
      asOption?_ofOption asCount?_ofCount (by simp [ofCount]) (some n)
    simp [toJson, ofJson?, asCount?_ofCount, read]

theorem SearchClause.ofJson?_toJson (s : SearchClause) : ofJson? s.toJson = some s := by
  have fields := asList?_ofList fun f (_ : f ∈ s.fields) => asString?_string f
  simp [toJson, ofJson?, fields]

namespace Specification

variable {ρ α : Type} [ResultTypes ρ]

def literals (spec : Specification ρ α) : List Value :=
  spec.criteria.literals ++ spec.additionalCriteria.flatMap Expr.literals

theorem fields?_toJson (spec : Specification ρ α) :
    spec.toJson.fields? fieldNames = some [some spec.criteria.toJson,
      some (ofList Expr.toJson spec.additionalCriteria),
      some (ofList IncludeNode.toJson spec.includes),
      some (ofList IncludeNode.toJson spec.includeChains),
      some (ofList string spec.includeStrings), some (ofList SortCriterion.toJson spec.orderings),
      some (ofOption Paging.toJson spec.paging), some (ofOption ofCount spec.limit),
      some (ofOption string spec.groupKey), some (bool spec.distinct),
      some (string spec.tracking.name), some (bool spec.ignoreStoreFilters),
      some (bool spec.splitFetch), some (ofOption string spec.tag),
      some (ofOption SearchClause.toJson spec.search)] :=
  fields?_members (show fieldNames.Nodup by decide)

theorem toJson_lossless_or_refused (spec : Specification ρ α)
    (legible : ∀ v ∈ spec.literals, v.Legible) :
    ofJson? spec.toJson =
      if spec.literals.all Value.isFinite then some spec.withoutSelector else none := by
  have finite : spec.literals.all Value.isFinite =
      (spec.criteria.isFinite && spec.additionalCriteria.all Expr.isFinite) := by
    rw [literals, List.all_append, List.all_flatMap]
    rfl
  have criteria := Expr.ofJson?_toJson fun v mem => legible v (List.mem_append_left _ mem)
  have additional := asList?_ofList_if fun e (mem : e ∈ spec.additionalCriteria) =>
    Expr.ofJson?_toJson fun v inside =>
      legible v (List.mem_append_right _ (List.mem_flatMap_of_mem mem inside))
  have includes := asList?_ofList fun node (_ : node ∈ spec.includes) => node.ofJson?_toJson
  have chains := asList?_ofList fun node (_ : node ∈ spec.includeChains) => node.ofJson?_toJson
  have paths := asList?_ofList fun path (_ : path ∈ spec.includeStrings) => asString?_string path
  have orderings := asList?_ofList fun c (_ : c ∈ spec.orderings) => c.ofJson?_toJson
  have paging := asOption?_ofOption Paging.ofJson?_toJson (by simp [Paging.toJson]) spec.paging
  have limit := asOption?_ofOption asCount?_ofCount (by simp [ofCount]) spec.limit
  have groupKey := asOption?_ofOption asString?_string (by simp) spec.groupKey
  have tag := asOption?_ofOption asString?_string (by simp) spec.tag
  have search := asOption?_ofOption SearchClause.ofJson?_toJson (by simp [SearchClause.toJson])
    spec.search
  have tracking := TrackingMode.ofJson?_name spec.tracking
  rw [finite, ofJson?, fields?_toJson, Option.bind_eq_bind, Option.bind_some]
  dsimp only [optional_some]
  rw [criteria, additional, includes, chains, paths, orderings, paging, limit,
    groupKey, tag, search, tracking]
  cases spec.criteria.isFinite <;> cases spec.additionalCriteria.all Expr.isFinite <;> rfl

section

open Sample

def lastSecond : DateTime :=
  ⟨⟨2016, 12, 31, by decide⟩, 86399, 1999999999, by decide⟩

def negativeZero : Binary64 := .ofMagnitude true 0

def sinceLeap : Specification ResultType Unit :=
  { (all : Specification ResultType Unit) with
    criteria := .and [.compare "At" .gt (.dateTime lastSecond),
      .oneOf "Ratio" [.float negativeZero, .integer 0] true]
    selector := some ⟨.integer, fun _ => (7 : Int64)⟩ }

def sinceLeapOrNaN : Specification ResultType Unit :=
  { sinceLeap with additionalCriteria := [.compare "Ratio" .eq (.float (.quietNaN false))] }

theorem sinceLeap_lossless :
    (∀ v ∈ sinceLeap.literals, v.Legible) ∧
      ofJson? sinceLeap.toJson = some sinceLeap.withoutSelector ∧
      ofJson? (ρ := ResultType) (α := Unit) sinceLeapOrNaN.toJson = none := by
  have last : lastSecond.OnMinute := fun _ => rfl
  have leap : (Value.dateTime lastSecond).Legible := Value.legible_dateTime_iff.2 last
  have float (x : Binary64) : (Value.float x).Legible := fun _ same => nomatch same
  have integer (n : Int64) : (Value.integer n).Legible := fun _ same => nomatch same
  have legible : ∀ v ∈ sinceLeap.literals, v.Legible :=
    List.forall_mem_cons.2 ⟨leap, List.forall_mem_cons.2 ⟨float _, List.forall_mem_cons.2
      ⟨integer _, List.forall_mem_nil _⟩⟩⟩
  have legibleToo : ∀ v ∈ sinceLeapOrNaN.literals, v.Legible := by
    intro v mem
    rcases List.mem_append.1 mem with old | new
    · exact legible v old
    · exact List.mem_singleton.1 new ▸ float _
  have finite : sinceLeap.literals.all Value.isFinite = true := by decide
  have notFinite : ¬sinceLeapOrNaN.literals.all Value.isFinite = true := by decide
  have read := toJson_lossless_or_refused sinceLeap legible
  have refused := toJson_lossless_or_refused sinceLeapOrNaN legibleToo
  rw [if_pos finite] at read
  rw [if_neg notFinite] at refused
  exact ⟨legible, read, refused⟩

end

end Specification

end EntityQuery
