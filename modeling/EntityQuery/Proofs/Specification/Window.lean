import EntityQuery.Proofs.Specification.WellFormed

set_option autoImplicit false

namespace EntityQuery

variable {ι ρ α : Type} [ResultTypes ρ]

def BuildStep.window (paging : Option Paging) : BuildStep ι ρ α → Option Paging
  | .paginate pageIndex pageSize =>
    if pageSize = 0 then paging else some (.page ⟨pageIndex, pageSize⟩)
  | .page request => if request.pageSize = 0 then paging else some (.page request)
  | .skip count => some { paging.getD ⟨0, none⟩ with skip := count }
  | .take count =>
    if count = 0 then paging else some { paging.getD ⟨0, none⟩ with take := some count }
  | _ => paging

namespace Builder

variable {b b' : Builder ι ρ α}

theorem check_paging (b : Builder ι ρ α) (e : Expr) :
    (b.check e).1.spec.paging = b.spec.paging := by
  rw [check_notes]
  rfl

theorem pushOrdering_paging (b : Builder ι ρ α) (field : String) (direction : SortDirection) :
    (b.pushOrdering field direction).spec.paging = b.spec.paging := by
  rw [pushOrdering]
  split <;> rfl

theorem search_paging (b : Builder ι ρ α) (term : String) (fields : List String) :
    (b.search term fields).spec.paging = b.spec.paging := by
  rw [search]
  by_cases blank : Text.isBlankText (Text.trim term) = true
  next => rw [if_pos blank]
  next =>
    rw [if_neg blank]
    by_cases given : fields.isEmpty = true
    next => rw [if_pos given]
    next =>
      rw [if_neg given]
      change (b.searchFields fields).1.spec.paging = b.spec.paging
      rw [searchFields_notes]
      rfl

theorem step_paging {step : BuildStep ι ρ α} (done : b.step step = .ok b') :
    b'.spec.paging = step.window b.spec.paging := by
  cases step with
  | applyFilterModel model config =>
    obtain ⟨e, -, -, -, spec⟩ := applyFilterModel_ok done
    rw [spec]
    rfl
  | whereExpr e | andWhere e => exact Except.ok.inj done ▸ check_paging b e
  | whereComposition c => exact Except.ok.inj done ▸ check_paging b c.toExpr
  | includeRelation r =>
    obtain rfl := Except.ok.inj done
    rw [includeRelation]
    split <;> rfl
  | includeChain chain =>
    obtain rfl := Except.ok.inj done
    rw [includeChain, foldl_addError]
    rfl
  | includePath path =>
    obtain rfl := Except.ok.inj done
    rw [includePath]
    split <;> rfl
  | orderBy field direction =>
    obtain rfl := Except.ok.inj done
    rw [orderBy, pushOrdering_paging]
    split <;> rfl
  | thenBy field direction =>
    obtain rfl := Except.ok.inj done
    rw [thenBy, pushOrdering_paging]
    split <;> rfl
  | paginate pageIndex pageSize =>
    obtain rfl := Except.ok.inj done
    rw [paginate, BuildStep.window]
    split <;> rfl
  | page request =>
    obtain rfl := Except.ok.inj done
    rw [page, paginate, BuildStep.window]
    split <;> rfl
  | take count =>
    obtain rfl := Except.ok.inj done
    rw [take, BuildStep.window]
    split <;> rfl
  | limit count =>
    obtain rfl := Except.ok.inj done
    rw [limit]
    split <;> rfl
  | groupBy field =>
    obtain rfl := Except.ok.inj done
    rw [groupBy]
    split <;> rfl
  | tag mark =>
    obtain rfl := Except.ok.inj done
    rw [tag]
    split <;> rfl
  | search term fields => exact Except.ok.inj done ▸ search_paging b term fields
  | skip | distinct | tracking | ignoreStoreFilters | splitFetch | select =>
    obtain rfl := Except.ok.inj done
    rfl

theorem run_paging {steps : List (BuildStep ι ρ α)} (ran : b.run steps = .ok b') :
    b'.spec.paging = steps.foldl BuildStep.window b.spec.paging := by
  induction steps generalizing b with
  | nil =>
    obtain rfl := Except.ok.inj ran
    rfl
  | cons step steps ih =>
    rw [run, List.foldlM_cons, bind_ok_iff] at ran
    obtain ⟨next, done, rest⟩ := ran
    rw [ih rest, step_paging done, List.foldl_cons]

end Builder

def Paging.HasRoom (paging : Option Paging) : Prop :=
  paging.bind Paging.take ≠ some 0

theorem BuildStep.window_hasRoom {paging : Option Paging} (h : Paging.HasRoom paging)
    (step : BuildStep ι ρ α) : Paging.HasRoom (step.window paging) := by
  have sized {size : Count} (positive : size ≠ 0) (skip : Count) :
      Paging.HasRoom (some ⟨skip, some size⟩) :=
    fun zero => positive (Option.some.inj zero)
  cases step with
  | paginate pageIndex pageSize =>
    rw [window]
    split
    next => exact h
    next positive => exact sized positive _
  | page request =>
    rw [window]
    split
    next => exact h
    next positive => exact sized positive _
  | skip count =>
    -- A window that was there keeps its size, and a new one has none.
    cases paging with
    | none => simp [window, Paging.HasRoom]
    | some p => exact h
  | take count =>
    rw [window]
    split
    next => exact h
    next positive => exact sized positive _
  | _ => exact h

theorem BuildStep.windows_hasRoom {paging : Option Paging} (h : Paging.HasRoom paging)
    (steps : List (BuildStep ι ρ α)) : Paging.HasRoom (steps.foldl window paging) := by
  induction steps generalizing paging with
  | nil => exact h
  | cons step steps ih => exact ih (step.window_hasRoom h)

theorem Builder.run_hasRoom {s : Schema ι} {steps : List (BuildStep ι ρ α)} {b : Builder ι ρ α}
    (ran : (start s).run steps = .ok b) : b.spec.take ≠ some 0 := by
  have none : Paging.HasRoom (start s : Builder ι ρ α).spec.paging := by
    simp [start, Specification.all, Paging.HasRoom]
  have room := BuildStep.windows_hasRoom none steps
  rwa [← run_paging ran] at room

end EntityQuery
