import EntityQuery.Proofs.Expr.Clauses
import EntityQuery.Proofs.Filter.Meaning

set_option autoImplicit false

namespace EntityQuery

variable {ι : Type}

namespace FilterCompiler

variable (c : FilterCompiler ι) {e : Expr} {asked : Prop} [Decidable asked] {b : Bool}

theorem isLeaf_of_then (h : e.IsLeaf) : (if asked then e else .const b).IsLeaf := by
  split
  next => exact h
  next => trivial

theorem isLeaf_of_else (h : e.IsLeaf) : (if asked then .const b else e).IsLeaf := by
  split
  next => trivial
  next => exact h

theorem compileSet_isLeaf (r : ResolvedField ι) (text : String) (negated : Bool) :
    (c.compileSet r text negated).IsLeaf := by
  refine isLeaf_of_else ?_
  split
  next => exact isLeaf_of_else trivial
  next => trivial

theorem compileCompare_isLeaf (r : ResolvedField ι) (op : CompareOp) (text : String) :
    (c.compileCompare r op text).IsLeaf := by
  rw [compileCompare]
  split <;> trivial

theorem compileField_isLeaf (r : ResolvedField ι) (op : FilterOperator) (text : String) :
    (c.compileField r op text).IsLeaf := by
  cases op with
  | oneOf | notOneOf => exact c.compileSet_isLeaf r text _
  | isNull | isNotNull | isEmpty | isNotEmpty | contains | startsWith | endsWith =>
    exact isLeaf_of_then trivial
  | _ => exact c.compileCompare_isLeaf r _ text

theorem compileResolved_isLeaf (item : FilterItem) (op : FilterOperator) :
    (c.compileResolved item op).IsLeaf := by
  rw [compileResolved]
  split
  next => trivial
  next r _ => exact isLeaf_of_else (c.compileField_isLeaf r op _)

theorem compileItems_isLeaf (items : List (FilterItem × FilterOperator)) :
    ∀ e ∈ c.compileItems items, e.IsLeaf :=
  List.forall_mem_map.2 fun (item, op) _ => c.compileResolved_isLeaf item op

structure Combines (clause whole : Expr → Prop) : Prop where
  leaf : ∀ {e}, e.IsLeaf → clause e
  any : ∀ {es}, (∀ e ∈ es, Expr.IsLeaf e) → clause (Expr.any es)
  widen : ∀ {e}, clause e → whole e
  all : ∀ {es}, (∀ e ∈ es, whole e) → whole (Expr.all es)

variable {clause whole : Expr → Prop} (combines : Combines clause whole)
include combines

theorem compileGroup_of (logic : FilterLogic) (items : List (FilterItem × FilterOperator)) :
    whole (c.compileGroup logic items) := by
  have leaves := c.compileItems_isLeaf items
  cases logic with
  | and => exact combines.all fun e mem => combines.widen (combines.leaf (leaves e mem))
  | or =>
    rw [compileGroup]
    split
    next => exact combines.widen (combines.leaf trivial)
    next => exact combines.widen (combines.any leaves)

theorem compileSearch_of (term : String) : clause (c.compileSearch term) := by
  obtain ⟨b, constant⟩ | ⟨-, searched⟩ := c.compileSearch_cases term
  next => exact constant ▸ combines.leaf trivial
  next => exact searched ▸ combines.any (List.forall_mem_map.2 fun _ _ => trivial)

theorem compile_of {model : FilterModel} (compiled : c.compile model = .ok e) : whole e := by
  cases unknown : unresolved? model.operators with
  | some name =>
    rw [c.compile_unresolved unknown] at compiled
    cases compiled
  | none =>
    obtain ⟨items, groups, -, -, ok⟩ := c.compile_resolved unknown
    rw [ok, Except.ok.injEq] at compiled
    subst compiled
    split
    next => exact combines.widen (combines.leaf trivial)
    next =>
      refine combines.all ?_
      simp only [List.mem_append, or_assoc]
      rintro e (item | group | search)
      · exact combines.widen (combines.leaf (c.compileItems_isLeaf items e item))
      · obtain ⟨⟨logic, items⟩, -, rfl⟩ := List.mem_map.1 group
        exact c.compileGroup_of combines logic items
      · obtain ⟨term, -, rfl⟩ := List.mem_map.1 search
        exact combines.widen (c.compileSearch_of combines term)

end FilterCompiler

theorem Expr.clauses_combine : FilterCompiler.Combines IsClause InClauses where
  leaf := .one
  any := any_isClause
  widen := .one
  all := all_inClauses

theorem Expr.normal_combine : FilterCompiler.Combines Normal Normal where
  leaf := IsLeaf.normal
  any h := any_normal fun e mem => (h e mem).normal
  widen h := h
  all := all_normal

end EntityQuery
