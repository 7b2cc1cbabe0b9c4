import EntityQuery.Proofs.Store.Distinct
import EntityQuery.Sample.Record

set_option autoImplicit false

namespace EntityQuery

open Std

variable {ι α : Type}

section Places

variable {p q : α → Bool}

theorem findIdx_drop {l : List α} {x : α} (m : List α) (h : p x = true → ∃ y ∈ l, p y = true) :
    ((l ++ m).findIdx p < l.length ∧ (l ++ x :: m).findIdx p = (l ++ m).findIdx p) ∨
      (l.length ≤ (l ++ m).findIdx p ∧ (l ++ x :: m).findIdx p = (l ++ m).findIdx p + 1) := by
  rw [List.findIdx_append, List.findIdx_append]
  by_cases early : ∃ y ∈ l, p y = true
  next =>
    have within := List.findIdx_lt_length.2 early
    exact .inl ⟨by rwa [if_pos within], by rw [if_pos within, if_pos within]⟩
  next =>
    have beyond : ¬ l.findIdx p < l.length := mt List.findIdx_lt_length.1 early
    have other : p x = false := Bool.eq_false_iff.2 (mt h early)
    refine .inr ⟨?_, ?_⟩
    · rw [if_neg beyond]
      omega
    · rw [if_neg beyond, if_neg beyond, List.findIdx_cons, other]
      simp only [cond_false]
      omega

theorem compare_findIdx_drop {l : List α} {x : α} (m : List α)
    (hp : p x = true → ∃ y ∈ l, p y = true) (hq : q x = true → ∃ y ∈ l, q y = true) :
    compare ((l ++ x :: m).findIdx p) ((l ++ x :: m).findIdx q) =
      compare ((l ++ m).findIdx p) ((l ++ m).findIdx q) := by
  simp only [Nat.compare_eq_ite_lt]
  rcases findIdx_drop m hp with ⟨boundP, placeP⟩ | ⟨boundP, placeP⟩ <;>
    rcases findIdx_drop m hq with ⟨boundQ, placeQ⟩ | ⟨boundQ, placeQ⟩ <;>
    rw [placeP, placeQ]
  all_goals grind

theorem compare_findIdx_filter (keep : α → Bool) (l : List α)
    (h : ∀ x ∈ l, keep x = false → p x = false ∧ q x = false) :
    compare (l.findIdx p) (l.findIdx q) =
      compare ((l.filter keep).findIdx p) ((l.filter keep).findIdx q) := by
  have fold (kept : List α) :
      compare ((kept ++ l).findIdx p) ((kept ++ l).findIdx q) =
        compare ((kept ++ l.filter keep).findIdx p) ((kept ++ l.filter keep).findIdx q) := by
    induction l generalizing kept with
    | nil => rfl
    | cons x l ih =>
      have later := ih fun y mem => h y (List.mem_cons_of_mem x mem)
      cases kept' : keep x with
      | true => simpa [kept'] using later (kept ++ [x])
      | false =>
        obtain ⟨notP, notQ⟩ := h x (List.mem_cons_self ..) kept'
        rw [List.filter_cons_of_neg (by simp [kept']),
          compare_findIdx_drop l (by simp [notP]) (by simp [notQ])]
        exact later kept
  exact fold []

end Places

namespace Entity

theorem compare_groupIndex_distinctValues (v w : Value) (seen vs : List Value) :
    compare (groupIndex (distinctValues seen vs) v) (groupIndex (distinctValues seen vs) w) =
      compare (groupIndex (seen ++ vs) v) (groupIndex (seen ++ vs) w) := by
  induction vs generalizing seen with
  | nil => simp [distinctValues]
  | cons u vs ih =>
    rw [distinctValues]
    split
    next old =>
      obtain ⟨s, mem, same⟩ := List.any_eq_true.1 old
      have again (t : Value) (h : u.same t = true) : ∃ y ∈ seen, y.same t = true :=
        ⟨s, mem, Value.same_trans same h⟩
      rw [ih]
      exact (compare_findIdx_drop vs (again v) (again w)).symm
    next =>
      rw [ih, List.append_assoc]
      rfl

variable (E : Entity ι α) (key : String)

def sameKey (a b : α) : Bool :=
  (E.value a key).same (E.value b key)

def keyed (row : α) : Bool :=
  E.sameKey key row row

def others (row : α) (rows : List α) : List α :=
  rows.filter fun other => !E.sameKey key row other

def groups : List α → List (List α)
  | [] => []
  | row :: rows => (row :: rows.filter (E.sameKey key row)) :: groups (E.others key row rows)
termination_by rows => rows.length
decreasing_by exact Nat.lt_succ_of_le (List.length_filter_le _ rows)

def firstPlace (rows : List α) (row : α) : Nat :=
  rows.findIdx fun other => E.sameKey key other row

variable {E key}

theorem sameKey_symm {a b : α} (h : E.sameKey key a b = true) : E.sameKey key b a = true :=
  Value.same_symm h

theorem sameKey_trans {a b c : α} (first : E.sameKey key a b = true)
    (second : E.sameKey key b c = true) : E.sameKey key a c = true :=
  Value.same_trans first second

theorem keyed_of_sameKey {a b : α} (h : E.sameKey key a b = true) : E.keyed key b = true :=
  sameKey_trans (sameKey_symm h) h

theorem sameKey_of_unkeyed {b : α} (h : E.keyed key b = false) (a : α) :
    E.sameKey key a b = false :=
  Bool.eq_false_iff.2 fun same => by simp [keyed_of_sameKey same] at h

theorem unkeyed_sameKey {a : α} (h : E.keyed key a = false) (b : α) :
    E.sameKey key a b = false :=
  Bool.eq_false_iff.2 fun same => by simp [keyed_of_sameKey (sameKey_symm same)] at h

theorem sameKey_congr {a b : α} (h : E.sameKey key a b = true) (c : α) :
    E.sameKey key a c = E.sameKey key b c :=
  Bool.eq_iff_iff.2 ⟨sameKey_trans (sameKey_symm h), sameKey_trans h⟩

variable {rows : List α}

theorem firstPlace_keyed {row : α} (mem : row ∈ rows) (h : E.keyed key row = true) :
    E.firstPlace key rows row < rows.length :=
  List.findIdx_lt_length.2 ⟨row, mem, h⟩

theorem firstPlace_unkeyed {row : α} (h : E.keyed key row = false) :
    E.firstPlace key rows row = rows.length :=
  List.findIdx_eq_length.2 fun other _ => sameKey_of_unkeyed h other

theorem groupRows_eq_stableSort (rows : List α) :
    E.groupRows key rows = stableSort (compareOn (E.firstPlace key rows)) rows := by
  refine stableSort_congr fun a _ b _ => ?_
  have places := compare_groupIndex_distinctValues (E.value a key) (E.value b key) []
    (rows.map fun row => E.value row key)
  rw [List.nil_append, groupIndex, groupIndex, groupIndex, groupIndex, List.findIdx_map,
    List.findIdx_map] at places
  exact places

theorem compare_firstPlace_filter (keep : α → Bool) {a b : α}
    (h : ∀ row ∈ rows, keep row = false →
      E.sameKey key row a = false ∧ E.sameKey key row b = false) :
    compareOn (E.firstPlace key rows) a b =
      compareOn (E.firstPlace key (rows.filter keep)) a b :=
  compare_findIdx_filter keep rows h

theorem filter_apart {row : α} (keyed : E.keyed key row = true) (rows : List α) :
    ((row :: rows).filter fun other => !E.sameKey key row other) = E.others key row rows := by
  have self : E.sameKey key row row = true := keyed
  exact List.filter_cons_of_neg (by simp [self])

theorem compare_firstPlace_others {row a b : α} (keyed : E.keyed key row = true)
    (ha : E.sameKey key row a = false) (hb : E.sameKey key row b = false) :
    compareOn (E.firstPlace key (row :: rows)) a b =
      compareOn (E.firstPlace key (E.others key row rows)) a b := by
  rw [← filter_apart keyed]
  refine compare_firstPlace_filter _ fun other _ gone => ?_
  have same : E.sameKey key row other = true := by simpa using gone
  rw [← sameKey_congr same a, ← sameKey_congr same b]
  exact ⟨ha, hb⟩

theorem stableSort_of_level {f : α → Nat} {n : Nat} (h : ∀ row ∈ rows, f row = n) :
    stableSort (compareOn f) rows = rows := by
  refine stableSort_of_sorted (compareOn f) (List.pairwise_of_forall_mem_list fun a ha b hb => ?_)
  rw [compareOn, h a ha, h b hb]
  simp

theorem stableSort_of_keyed (h : ∀ row ∈ rows, E.keyed key row = true) :
    stableSort (compareOn (E.firstPlace key rows)) rows = (E.groups key rows).flatten := by
  induction rows using groups.induct E key with
  | case1 => simp [groups, stableSort]
  | case2 row rows ih =>
    obtain ⟨keyed, later⟩ := List.forall_mem_cons.1 h
    have own : E.sameKey key row row = true := keyed
    have first (a : α) (same : E.sameKey key row a = true) :
        E.firstPlace key (row :: rows) a = 0 := by
      simp [firstPlace, List.findIdx_cons, same]
    have below : ∀ a ∈ row :: rows, ∀ b ∈ row :: rows, E.sameKey key row a = true →
        E.sameKey key row b = false → compareOn (E.firstPlace key (row :: rows)) a b = .lt := by
      intro a _ b _ same other
      rw [compareOn, first a same, firstPlace, List.findIdx_cons, other]
      exact compare_lt_iff_lt.2 (Nat.succ_pos _)
    have places : stableSort (compareOn (E.firstPlace key (row :: rows))) (E.others key row rows) =
        stableSort (compareOn (E.firstPlace key (E.others key row rows)))
          (E.others key row rows) := by
      refine stableSort_congr fun a ha b hb => compare_firstPlace_others keyed ?_ ?_
      · simpa using (List.mem_filter.1 ha).2
      · simpa using (List.mem_filter.1 hb).2
    rw [stableSort_partition _ _ _ below, filter_apart keyed, places,
      stableSort_of_level fun a mem => first a (List.mem_filter.1 mem).2,
      ih fun other mem => later other (List.mem_filter.1 mem).1, groups,
      List.filter_cons_of_pos own, List.flatten_cons]

theorem groupRows_eq_groups (rows : List α) :
    E.groupRows key rows =
      (E.groups key (rows.filter (E.keyed key))).flatten ++
        rows.filter fun row => !E.keyed key row := by
  have below : ∀ a ∈ rows, ∀ b ∈ rows, E.keyed key a = true → E.keyed key b = false →
      compareOn (E.firstPlace key rows) a b = .lt := by
    intro a mem b _ keyed unkeyed
    rw [compareOn, firstPlace_unkeyed unkeyed]
    exact compare_lt_iff_lt.2 (firstPlace_keyed mem keyed)
  have behind : ∀ row ∈ rows.filter fun row => !E.keyed key row,
      E.firstPlace key rows row = rows.length := by
    intro row mem
    exact firstPlace_unkeyed (by simpa using (List.mem_filter.1 mem).2)
  have places : stableSort (compareOn (E.firstPlace key rows)) (rows.filter (E.keyed key)) =
      stableSort (compareOn (E.firstPlace key (rows.filter (E.keyed key))))
        (rows.filter (E.keyed key)) := by
    refine stableSort_congr fun a _ b _ => compare_firstPlace_filter _ fun other _ unkeyed => ?_
    exact ⟨unkeyed_sameKey unkeyed a, unkeyed_sameKey unkeyed b⟩
  rw [groupRows_eq_stableSort, stableSort_partition _ _ _ below, stableSort_of_level behind, places,
    stableSort_of_keyed fun row mem => (List.mem_filter.1 mem).2]

theorem filter_keyed (row : α) (rows : List α) :
    (rows.filter (E.keyed key)).filter (E.sameKey key row) =
      rows.filter (E.sameKey key row) := by
  rw [List.filter_filter]
  refine List.filter_congr fun other _ => ?_
  cases keyed : E.keyed key other with
  | true => simp
  | false => simp [sameKey_of_unkeyed keyed]

theorem groups_perm (rows : List α) : (E.groups key rows).flatten.Perm rows := by
  induction rows using groups.induct E key with
  | case1 => simp [groups]
  | case2 row rows ih =>
    rw [groups, List.flatten_cons]
    exact ((ih.append_left _).trans (List.filter_append_perm _ rows)).cons row

theorem groups_contiguous (rows : List α) (row : α) :
    ∃ before after, (E.groups key rows).flatten =
        before ++ rows.filter (E.sameKey key row) ++ after ∧
      ∀ other ∈ before ++ after, E.sameKey key row other = false := by
  induction rows using groups.induct E key with
  | case1 => exact ⟨[], [], by simp [groups], by simp⟩
  | case2 head rows ih =>
    rw [groups, List.flatten_cons]
    cases same : E.sameKey key row head with
    | true =>
      have alike : E.sameKey key head = E.sameKey key row :=
        funext fun other => (sameKey_congr same other).symm
      refine ⟨[], (E.groups key (E.others key head rows)).flatten, ?_, fun other mem => ?_⟩
      · rw [List.filter_cons_of_pos same, alike]
        rfl
      · have outside := List.mem_filter.1 ((groups_perm _).mem_iff.1 mem)
        simpa [alike] using outside.2
    | false =>
      obtain ⟨before, after, groups, apart⟩ := ih
      have elsewhere {other : α} (h : E.sameKey key head other = true) :
          E.sameKey key row other = false := by
        refine Bool.eq_false_iff.2 fun also => ?_
        rw [sameKey_trans also (sameKey_symm h)] at same
        cases same
      have kept : (E.others key head rows).filter (E.sameKey key row) =
          rows.filter (E.sameKey key row) := by
        rw [others, List.filter_filter]
        refine List.filter_congr fun other _ => ?_
        cases first : E.sameKey key head other with
        | true => simp [elsewhere first]
        | false => simp
      refine ⟨head :: rows.filter (E.sameKey key head) ++ before, after, ?_, fun other mem => ?_⟩
      · rw [groups, kept, List.filter_cons_of_neg (by simp [same])]
        simp only [List.append_assoc]
      · rw [List.append_assoc, List.mem_append, List.mem_cons] at mem
        rcases mem with (rfl | own) | outside
        · exact same
        · exact elsewhere (List.mem_filter.1 own).2
        · exact apart other outside

theorem groupRows_contiguous (rows : List α) (row : α) :
    ∃ before after, E.groupRows key rows =
        before ++ rows.filter (E.sameKey key row) ++ after ∧
      ∀ other ∈ before ++ after, E.sameKey key row other = false := by
  obtain ⟨before, after, groups, apart⟩ :=
    groups_contiguous (rows.filter (E.keyed key)) row
  refine ⟨before, after ++ rows.filter fun row => !E.keyed key row, ?_, fun other mem => ?_⟩
  · rw [groupRows_eq_groups, groups, filter_keyed, List.append_assoc]
  · rw [← List.append_assoc, List.mem_append] at mem
    rcases mem with inside | behind
    · exact apart other inside
    · exact sameKey_of_unkeyed (by simpa using (List.mem_filter.1 behind).2) row

theorem groupRows_ordered (rows : List α) :
    (E.groupRows key rows).Pairwise fun a b =>
      E.firstPlace key rows a ≤ E.firstPlace key rows b := by
  rw [groupRows_eq_stableSort]
  refine (stableSort_sorted _ rows).imp fun {a b} order => ?_
  rwa [compareOn, Nat.isLE_compare] at order

theorem groupRows_of_keyed {row : α} (h : E.keyed key row = true) (rows : List α) :
    E.groupRows key (row :: rows) =
      row :: rows.filter (E.sameKey key row) ++ E.groupRows key (E.others key row rows) := by
  have keyed : E.others key row (rows.filter (E.keyed key)) =
      (E.others key row rows).filter (E.keyed key) := by
    rw [others, others, List.filter_filter, List.filter_filter]
    simp only [Bool.and_comm]
  have unkeyed : ((row :: rows).filter fun other => !E.keyed key other) =
      (E.others key row rows).filter fun other => !E.keyed key other := by
    rw [List.filter_cons_of_neg (by simp [h]), others, List.filter_filter]
    refine List.filter_congr fun other _ => ?_
    cases keyed : E.keyed key other with
    | true => simp
    | false => simp [sameKey_of_unkeyed keyed]
  rw [groupRows_eq_groups, groupRows_eq_groups, List.filter_cons_of_pos h, groups, filter_keyed,
    keyed, unkeyed, List.flatten_cons, List.append_assoc]

theorem groups_of_unkeyed (h : ∀ row ∈ rows, E.keyed key row = false) :
    (E.groups key rows).flatten = rows := by
  induction rows with
  | nil => simp [groups]
  | cons row rows ih =>
    obtain ⟨unkeyed, later⟩ := List.forall_mem_cons.1 h
    simp [groups, others, unkeyed_sameKey unkeyed, ih later]

theorem groupRows_of_unkeyed (h : ∀ row ∈ rows, E.keyed key row = false) :
    E.groupRows key rows = rows := by
  have none : rows.filter (E.keyed key) = [] :=
    List.filter_eq_nil_iff.2 fun row mem => by simp [h row mem]
  have all : (rows.filter fun row => !E.keyed key row) = rows :=
    List.filter_eq_self.2 fun row mem => by simp [h row mem]
  rw [groupRows_eq_groups, none, all, groups]
  rfl

def Leading (E : Entity ι α) (key : String) (rows : List α) : Prop :=
  ∀ row ∈ rows, E.keyed key row = true →
    ∃ first ∈ rows.takeWhile (E.keyed key), E.sameKey key first row = true

theorem leading_of_keyed {row : α} (h : E.keyed key row = true) (rows : List α) :
    E.Leading key (row :: rows) ↔ E.Leading key (E.others key row rows) := by
  have started : (E.others key row rows).takeWhile (E.keyed key) =
      E.others key row (rows.takeWhile (E.keyed key)) := by
    rw [others, others, List.takeWhile_filter]
    congr 2
    funext other
    cases keyed : E.keyed key other with
    | true => simp
    | false => simp [sameKey_of_unkeyed keyed]
  rw [Leading, Leading, started, List.takeWhile_cons_of_pos h]
  constructor
  next =>
    intro leading other mem keyed
    obtain ⟨own, apart⟩ := List.mem_filter.1 mem
    obtain ⟨first, early, same⟩ := leading other (List.mem_cons_of_mem row own) keyed
    rcases List.mem_cons.1 early with rfl | early
    · simp [same] at apart
    · refine ⟨first, List.mem_filter.2 ⟨early, ?_⟩, same⟩
      rw [Bool.not_eq_true'] at apart ⊢
      exact Bool.eq_false_iff.2 fun also => by simp [sameKey_trans also same] at apart
  next =>
    intro leading other mem keyed
    by_cases same : E.sameKey key row other = true
    next => exact ⟨row, List.mem_cons_self .., same⟩
    next =>
      have own : other ∈ rows := (List.mem_cons.1 mem).resolve_left fun equal =>
        same (equal ▸ h)
      obtain ⟨first, early, also⟩ :=
        leading other (List.mem_filter.2 ⟨own, by simpa using same⟩) keyed
      exact ⟨first, List.mem_cons_of_mem row (List.mem_filter.1 early).1, also⟩

theorem groupRows_eq_flatten_iff (rows : List α) :
    E.groupRows key rows = (E.groups key rows).flatten ↔ E.Leading key rows := by
  induction rows using groups.induct E key with
  | case1 => simp [groupRows_eq_groups, groups, Leading]
  | case2 row rows ih =>
    cases keyed : E.keyed key row with
    | true =>
      rw [groupRows_of_keyed keyed, leading_of_keyed keyed, groups, List.flatten_cons,
        List.append_cancel_left_eq, ih]
    | false =>
      have leading : E.Leading key (row :: rows) ↔
          ∀ other ∈ row :: rows, E.keyed key other = false := by
        simp [Leading, keyed]
      rw [leading]
      constructor
      next =>
        intro equal other mem
        refine Bool.eq_false_iff.2 fun early => ?_
        -- The first row would be behind all groups and in front of this one.
        have sorted : (E.groupRows key (row :: rows)).Pairwise _ := groupRows_ordered (row :: rows)
        have inside := ((E.perm_groupRows key (row :: rows)).mem_iff (a := other)).2 mem
        rw [equal, groups, List.flatten_cons] at sorted inside
        have within := firstPlace_keyed mem early
        rcases List.mem_cons.1 inside with rfl | later
        · rw [keyed] at early
          cases early
        · have order := List.rel_of_pairwise_cons sorted later
          rw [firstPlace_unkeyed keyed] at order
          exact absurd within (Nat.not_lt.2 order)
      next =>
        intro alone
        rw [groupRows_of_unkeyed alone, groups_of_unkeyed alone]

/--
Rows with equal keys come to stand together and keep their order, and where one key comes before
another for the first time, so do its rows. Only the rows whose key does not equal itself are behind
all others: it takes one of them in front of the first row of some group for that to show.
-/
theorem groupRows_exact (E : Entity ι α) (key : String) (rows : List α) :
    (E.groupRows key rows).Perm rows ∧
      (∀ row, ∃ before after,
        E.groupRows key rows = before ++ rows.filter (E.sameKey key row) ++ after ∧
          ∀ other ∈ before ++ after, E.sameKey key row other = false) ∧
      ((E.groupRows key rows).Pairwise fun a b =>
        E.firstPlace key rows a ≤ E.firstPlace key rows b) ∧
      E.groupRows key rows =
        (E.groups key (rows.filter (E.keyed key))).flatten ++
          (rows.filter fun row => !E.keyed key row) ∧
      (E.groupRows key rows = (E.groups key rows).flatten ↔ E.Leading key rows) :=
  ⟨E.perm_groupRows key rows, groupRows_contiguous rows, groupRows_ordered rows,
    groupRows_eq_groups rows, groupRows_eq_flatten_iff rows⟩

section

open Sample

def oneAndAHalf : Binary64 := ⟨0x3FF8000000000000⟩

def nanFirst : List Counter :=
  [⟨1, some (.quietNaN false)⟩, ⟨2, some oneAndAHalf⟩]

theorem nan_group_is_last :
    (counters.groups "Ratio" nanFirst).map (fun group => group.map Counter.id) = [[1], [2]] ∧
      (counters.groupRows "Ratio" nanFirst).map Counter.id = [2, 1] := by
  have apart :
      counters.sameKey "Ratio" ⟨1, some (.quietNaN false)⟩ ⟨2, some oneAndAHalf⟩ = false := by
    decide
  refine ⟨?_, by decide⟩
  simp [nanFirst, groups, others, apart]

end

end Entity

end EntityQuery
