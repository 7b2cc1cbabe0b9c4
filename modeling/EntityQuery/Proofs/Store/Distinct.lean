import EntityQuery.Proofs.Store.Rows

set_option autoImplicit false

namespace EntityQuery

theorem Binary64.numericEq_iff {x y : Binary64} :
    x.numericEq y = true ↔ x.isNaN = false ∧ y.isNaN = false ∧ x.numericKey = y.numericKey := by
  rw [numericEq, compare?]
  cases x.isNaN <;> cases y.isNaN <;> simp

namespace Value

theorem same_iff {a b : Value} :
    a.same b = true ↔ (a = b ∧ ∀ x, a ≠ float x) ∨
      ∃ x y, a = float x ∧ b = float y ∧ x.numericEq y = true := by
  cases a <;> cases b <;> simp [same]

theorem same_symm {a b : Value} (h : a.same b = true) : b.same a = true := by
  rw [same_iff] at h ⊢
  rcases h with ⟨rfl, other⟩ | ⟨x, y, rfl, rfl, equal⟩
  · exact .inl ⟨rfl, other⟩
  · rw [Binary64.numericEq_iff] at equal
    exact .inr ⟨y, x, rfl, rfl, Binary64.numericEq_iff.2 ⟨equal.2.1, equal.1, equal.2.2.symm⟩⟩

theorem same_trans {a b c : Value} (first : a.same b = true) (second : b.same c = true) :
    a.same c = true := by
  rcases same_iff.1 first with ⟨rfl, -⟩ | ⟨x, y, rfl, rfl, equal⟩
  · exact second
  · rcases same_iff.1 second with ⟨rfl, -⟩ | ⟨_, z, same, rfl, equal'⟩
    · exact first
    · cases same
      rw [Binary64.numericEq_iff] at equal equal'
      exact same_iff.2 (.inr ⟨x, z, rfl, rfl,
        Binary64.numericEq_iff.2 ⟨equal.1, equal'.2.1, equal.2.2.trans equal'.2.2⟩⟩)

theorem sameList_symm {as bs : List Value} (h : sameList as bs = true) :
    sameList bs as = true := by
  induction as generalizing bs with
  | nil => cases bs <;> simp_all [sameList]
  | cons a as ih =>
    cases bs with
    | nil => simp [sameList] at h
    | cons b bs =>
      simp only [sameList, Bool.and_eq_true] at h ⊢
      exact ⟨same_symm h.1, ih h.2⟩

theorem sameList_trans {as bs cs : List Value} (first : sameList as bs = true)
    (second : sameList bs cs = true) : sameList as cs = true := by
  induction as generalizing bs cs with
  | nil => cases bs <;> simp_all [sameList]
  | cons a as ih =>
    cases bs with
    | nil => simp [sameList] at first
    | cons b bs =>
      cases cs with
      | nil => simp [sameList] at second
      | cons c cs =>
        simp only [sameList, Bool.and_eq_true] at first second ⊢
        exact ⟨same_trans first.1 second.1, ih first.2 second.2⟩

end Value

namespace Entity

variable {ι α : Type} (E : Entity ι α)

def sameRow (a b : α) : Bool :=
  Value.sameList (E.scalarValues a) (E.scalarValues b)

def Apart (rows : List α) : Prop :=
  rows.Pairwise fun a b => E.sameRow a b = false

def isNew (rows : List α) (i : Fin rows.length) : Bool :=
  decide (∀ j < i, E.sameRow rows[j] rows[i] = false)

variable {E} {rows some : List α}

theorem sameRow_symm {a b : α} (h : E.sameRow a b = false) : E.sameRow b a = false := by
  rw [Bool.eq_false_iff] at h ⊢
  exact fun same => h (Value.sameList_symm same)

theorem Apart.perm (h : E.Apart rows) (p : rows.Perm some) : E.Apart some :=
  p.pairwise h sameRow_symm

theorem Apart.replace {row other : α} (h : E.Apart (other :: rows))
    (same : E.sameRow row other = true) : E.Apart (row :: rows) := by
  refine h.of_cons.cons fun third inside => ?_
  have different := List.rel_of_pairwise_cons h inside
  rw [Bool.eq_false_iff] at different ⊢
  exact fun again => different (Value.sameList_trans (Value.sameList_symm same) again)

theorem distinctFrom_fresh {seen : List (List Value)} {row : α}
    (kept : row ∈ E.distinctFrom seen rows) :
    ∀ old ∈ seen, Value.sameList old (E.scalarValues row) = false := by
  induction rows generalizing seen with
  | nil => simp [distinctFrom] at kept
  | cons next rows ih =>
    rw [distinctFrom] at kept
    split at kept
    next => exact ih kept
    next new =>
      rcases List.mem_cons.1 kept with rfl | later
      · simpa using new
      · exact fun old mem => ih later old (List.mem_append_left _ mem)

theorem distinctFrom_apart (seen : List (List Value)) (rows : List α) :
    E.Apart (E.distinctFrom seen rows) := by
  induction rows generalizing seen with
  | nil => exact .nil
  | cons row rows ih =>
    rw [distinctFrom]
    split
    next => exact ih seen
    next =>
      exact (ih _).cons fun later kept => distinctFrom_fresh kept _ (by simp)

theorem length_le_distinctFrom {seen : List (List Value)} (sub : some.Sublist rows)
    (apart : E.Apart some)
    (fresh : ∀ old ∈ seen, ∀ row ∈ some, Value.sameList old (E.scalarValues row) = false) :
    some.length ≤ (E.distinctFrom seen rows).length := by
  induction rows generalizing some seen with
  | nil => simp [List.sublist_nil.1 sub]
  | cons row rows ih =>
    rw [distinctFrom]
    split
    next old =>
      -- The row equals an earlier one, so it is not among those that do not.
      cases sub with
      | cons _ sub => exact ih sub apart fresh
      | cons_cons _ sub =>
        obtain ⟨values, mem, same⟩ := List.any_eq_true.1 old
        rw [fresh values mem row (by simp)] at same
        cases same
    next new =>
      -- At most one of the chosen rows equals the row, and it makes way for it.
      have chosen (others : List α) (sub : others.Sublist rows) (apart : E.Apart (row :: others))
          (fresh : ∀ old ∈ seen, ∀ row ∈ others,
            Value.sameList old (E.scalarValues row) = false) :
          others.length ≤ (E.distinctFrom (seen ++ [E.scalarValues row]) rows).length := by
        refine ih sub apart.of_cons fun old mem other inside => ?_
        rcases List.mem_append.1 mem with earlier | own
        · exact fresh old earlier other inside
        · obtain rfl := List.mem_singleton.1 own
          exact List.rel_of_pairwise_cons apart inside
      rw [List.length_cons]
      cases sub with
      | cons_cons _ sub =>
        rw [List.length_cons]
        exact Nat.succ_le_succ (chosen _ sub apart fun old mem other inside =>
          fresh old mem other (List.mem_cons_of_mem _ inside))
      | cons _ sub =>
        by_cases met : ∃ other ∈ some, E.sameRow row other = true
        next =>
          obtain ⟨other, mem, same⟩ := met
          obtain ⟨before, after, rfl⟩ := List.append_of_mem mem
          have front : E.Apart (other :: (before ++ after)) := apart.perm List.perm_middle
          have rest : (before ++ after).Sublist (before ++ other :: after) :=
            (List.sublist_cons_self other after).append_left before
          have bound := chosen _ (rest.trans sub) (front.replace same) fun old mem third inside =>
            fresh old mem third (rest.subset inside)
          simp only [List.length_append, List.length_cons] at bound ⊢
          omega
        next =>
          have different : E.Apart (row :: some) := apart.cons fun other mem => by
            simpa using fun same => met ⟨other, mem, same⟩
          exact Nat.le_succ_of_le (chosen _ sub different fresh)

theorem length_distinctRows_le (sub : some.Subperm rows) :
    (E.distinctRows some).length ≤ (E.distinctRows rows).length := by
  -- The rows kept of the one list stand in the other as well, and differ from each other.
  obtain ⟨kept, perm, inside⟩ := (E.distinctRows_sublist some).subperm.trans sub
  rw [← perm.length_eq]
  exact length_le_distinctFrom inside ((distinctFrom_apart [] some).perm perm.symm) (by simp)

theorem isNew_succ (row : α) (i : Fin rows.length) :
    E.isNew (row :: rows) i.succ = (!E.sameRow row rows[i] && E.isNew rows i) := by
  rw [Bool.eq_iff_iff]
  simp [isNew, Fin.forall_fin_succ]

theorem distinctFrom_eq (seen : List (List Value)) (rows : List α) :
    E.distinctFrom seen rows = ((List.finRange rows.length).filter fun i =>
      !seen.any (fun old => Value.sameList old (E.scalarValues rows[i])) && E.isNew rows i).map
        fun i => rows[i] := by
  induction rows generalizing seen with
  | nil => rfl
  | cons row rows ih =>
    have first : E.isNew (row :: rows) 0 = true :=
      decide_eq_true fun j before => absurd before (Fin.not_lt_zero j)
    have places : List.finRange (row :: rows).length =
        0 :: (List.finRange rows.length).map Fin.succ := List.finRange_succ
    rw [distinctFrom, places, List.filter_cons, List.filter_map, first]
    simp only [Function.comp_def, isNew_succ]
    split
    next old =>
      obtain ⟨values, mem, same⟩ := List.any_eq_true.1 old
      rw [ih, if_neg (by simpa using old), List.map_map]
      refine congrArg (List.map _) (List.filter_congr fun i _ => ?_)
      -- What equals the row equals the one that it was dropped for.
      cases again : E.sameRow row rows[i] with
      | false => simp
      | true =>
        have known : seen.any (fun old => Value.sameList old (E.scalarValues rows[i])) = true :=
          List.any_eq_true.2 ⟨values, mem, Value.sameList_trans same again⟩
        simp only [known, Bool.not_true, Bool.false_and, Bool.and_false]
    next new =>
      rw [ih, if_pos (by simpa using new), List.map_cons, List.map_map]
      refine congrArg (row :: ·) (congrArg (List.map _) (List.filter_congr fun i _ => ?_))
      simp [sameRow, Bool.and_assoc]

theorem distinctRows_eq (rows : List α) :
    E.distinctRows rows = ((List.finRange rows.length).filter (E.isNew rows)).map (rows[·]) := by
  rw [distinctRows, distinctFrom_eq]
  rfl

theorem distinctRows_of_apart (h : E.Apart rows) : E.distinctRows rows = rows := by
  have new (i : Fin rows.length) : E.isNew rows i = true :=
    decide_eq_true fun j before => List.pairwise_iff_getElem.1 h j i j.isLt i.isLt before
  rw [distinctRows_eq, List.filter_eq_self.2 fun i _ => new i]
  exact List.map_get_finRange rows

theorem exists_isNew {i : Fin rows.length} (repeated : E.isNew rows i = false) :
    ∃ j < i, E.isNew rows j = true ∧ E.sameRow rows[j] rows[i] = true := by
  obtain ⟨place, bound⟩ := i
  induction place using Nat.strongRecOn with
  | ind place ih =>
    obtain ⟨j, before, same⟩ : ∃ j < (⟨place, bound⟩ : Fin rows.length),
        E.sameRow rows[j] rows[place] = true := by
      simpa [isNew] using repeated
    by_cases new : E.isNew rows j = true
    next => exact ⟨j, before, new, same⟩
    next =>
      obtain ⟨k, earlier, new, again⟩ := ih j before j.isLt (Bool.eq_false_iff.2 new)
      exact ⟨k, Nat.lt_trans earlier before, new, Value.sameList_trans again same⟩

/--
A row stays exactly where it equals no row before it. The rows that stay differ, every other row
equals one that stays before it, and dropping once more changes nothing.
-/
theorem distinctRows_exact (rows : List α) :
    E.distinctRows rows = ((List.finRange rows.length).filter (E.isNew rows)).map (rows[·]) ∧
      E.Apart (E.distinctRows rows) ∧
      (∀ i : Fin rows.length, E.isNew rows i = false →
        ∃ j < i, E.isNew rows j = true ∧ E.sameRow rows[j] rows[i] = true) ∧
      E.distinctRows (E.distinctRows rows) = E.distinctRows rows :=
  ⟨distinctRows_eq rows, distinctFrom_apart [] rows, fun _ repeated => exists_isNew repeated,
    distinctRows_of_apart (distinctFrom_apart [] rows)⟩

end Entity

end EntityQuery
