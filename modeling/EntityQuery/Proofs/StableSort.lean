import EntityQuery.StableSort

set_option autoImplicit false

namespace EntityQuery

open Std

variable {α β : Type}

def tied (cmp : α → α → Ordering) (x y : α) : Bool :=
  (cmp x y).isEq

section Insertion

variable (cmp : α → α → Ordering)

theorem perm_insertDescending (x : α) (ys : List α) :
    (insertDescending cmp x ys).Perm (x :: ys) := by
  induction ys with
  | nil => exact .refl _
  | cons z zs ih =>
    rw [insertDescending]
    split
    · exact (ih.cons z).trans (.swap x z zs)
    · exact .refl _

theorem perm_stableSort (xs : List α) : (stableSort cmp xs).Perm xs := by
  have fold (sorted : List α) :
      (xs.foldl (fun sorted x => insertDescending cmp x sorted) sorted).Perm
        (xs.reverse ++ sorted) := by
    induction xs generalizing sorted with
    | nil => exact .refl _
    | cons x xs ih =>
      have step := (perm_insertDescending cmp x sorted).append_left xs.reverse
      simpa using (ih _).trans step
  have all := fold []
  rw [List.append_nil] at all
  exact (List.reverse_perm _).trans (all.trans (List.reverse_perm xs))

@[simp] theorem mem_stableSort (x : α) (xs : List α) : x ∈ stableSort cmp xs ↔ x ∈ xs :=
  (perm_stableSort cmp xs).mem_iff

theorem insertDescending_map (f : β → α) (x : β) (ys : List β) :
    insertDescending cmp (f x) (ys.map f) =
      (insertDescending (fun a b => cmp (f a) (f b)) x ys).map f := by
  induction ys with
  | nil => rfl
  | cons y ys ih =>
    simp only [List.map_cons, insertDescending, ih]
    split <;> rfl

theorem stableSort_map (f : β → α) (xs : List β) :
    stableSort cmp (xs.map f) = (stableSort (fun a b => cmp (f a) (f b)) xs).map f := by
  have fold (sorted : List β) :
      (xs.map f).foldl (fun sorted x => insertDescending cmp x sorted) (sorted.map f) =
        (xs.foldl (fun sorted x => insertDescending (fun a b => cmp (f a) (f b)) x sorted)
          sorted).map f := by
    induction xs generalizing sorted with
    | nil => rfl
    | cons x xs ih =>
      simp only [List.map_cons, List.foldl_cons, insertDescending_map]
      exact ih _
  simp only [stableSort, List.map_reverse]
  exact congrArg List.reverse (fold [])

end Insertion

theorem stableSort_congr {cmp cmp' : α → α → Ordering} {xs : List α}
    (h : ∀ a ∈ xs, ∀ b ∈ xs, cmp a b = cmp' a b) : stableSort cmp xs = stableSort cmp' xs := by
  have alike : (fun a b : { x // x ∈ xs } => cmp a.1 b.1) = fun a b => cmp' a.1 b.1 :=
    funext fun a => funext fun b => h a.1 a.2 b.1 b.2
  have mapped := stableSort_map cmp Subtype.val xs.attach
  rwa [alike, ← stableSort_map, List.attach_map_subtype_val] at mapped

section Preorder

variable (cmp : α → α → Ordering) [TransCmp cmp]

theorem tied_congr {x y : α} (h : tied cmp x y) (z : α) : tied cmp x z = tied cmp y z := by
  rw [tied, Ordering.isEq_iff_eq_eq] at h
  rw [tied, tied, TransCmp.congr_left h]

theorem filter_insertDescending (z x : α) (ys : List α) :
    (insertDescending cmp x ys).filter (tied cmp z) =
      if tied cmp z x then x :: ys.filter (tied cmp z) else ys.filter (tied cmp z) := by
  induction ys with
  | nil => by_cases h : tied cmp z x <;> simp [insertDescending, h]
  | cons y ys ih =>
    rw [insertDescending]
    split
    next less =>
      -- An element that is passed does not tie with the inserted one.
      have apart (h : tied cmp z x) : tied cmp z y = false := by
        rw [tied_congr cmp h, tied, less]
        rfl
      by_cases h : tied cmp z x
      · simp [ih, h, apart h]
      · simp [List.filter_cons, ih, h]
    next => rw [List.filter_cons]

theorem filter_stableSort (z : α) (xs : List α) :
    (stableSort cmp xs).filter (tied cmp z) = xs.filter (tied cmp z) := by
  have fold (sorted : List α) :
      (xs.foldl (fun sorted x => insertDescending cmp x sorted) sorted).filter (tied cmp z) =
        (xs.filter (tied cmp z)).reverse ++ sorted.filter (tied cmp z) := by
    induction xs generalizing sorted with
    | nil => simp
    | cons x xs ih =>
      rw [List.foldl_cons, ih, filter_insertDescending]
      by_cases h : tied cmp z x <;> simp [h]
  simp [stableSort, List.filter_reverse, fold]

theorem insertDescending_sorted (x : α) (ys : List α)
    (h : ys.Pairwise fun a b => (cmp b a).isLE) :
    (insertDescending cmp x ys).Pairwise fun a b => (cmp b a).isLE := by
  induction ys with
  | nil => simp [insertDescending]
  | cons y ys ih =>
    obtain ⟨above, rest⟩ := List.pairwise_cons.1 h
    rw [insertDescending]
    split
    next less =>
      refine List.pairwise_cons.2 ⟨fun w mem => ?_, ih rest⟩
      rcases List.mem_cons.1 ((perm_insertDescending cmp x ys).mem_iff.1 mem) with rfl | old
      · simp [less]
      · exact above w old
    next notLess =>
      have below : (cmp y x).isLE := by
        rw [@OrientedCmp.eq_swap _ cmp _ y x]
        cases order : cmp x y <;> simp_all
      refine List.pairwise_cons.2 ⟨fun w mem => ?_, h⟩
      rcases List.mem_cons.1 mem with rfl | old
      · exact below
      · exact TransCmp.isLE_trans (above w old) below

theorem stableSort_sorted (xs : List α) :
    (stableSort cmp xs).Pairwise fun a b => (cmp a b).isLE := by
  have fold (sorted : List α) (h : sorted.Pairwise fun a b => (cmp b a).isLE) :
      (xs.foldl (fun sorted x => insertDescending cmp x sorted) sorted).Pairwise
        fun a b => (cmp b a).isLE := by
    induction xs generalizing sorted with
    | nil => exact h
    | cons x xs ih => exact ih _ (insertDescending_sorted cmp x sorted h)
  exact List.pairwise_reverse.2 (fold [] .nil)

theorem eq_of_sorted_of_filter (xs ys : List α) (left : xs.Pairwise fun a b => (cmp a b).isLE)
    (right : ys.Pairwise fun a b => (cmp a b).isLE)
    (same : ∀ z, xs.filter (tied cmp z) = ys.filter (tied cmp z)) : xs = ys := by
  have self (z : α) : tied cmp z z := by simp [tied, ReflCmp.compare_self]
  induction xs generalizing ys with
  | nil =>
    cases ys with
    | nil => rfl
    | cons y ys =>
      have none := same y
      simp [self] at none
  | cons x xs ih =>
    cases ys with
    | nil =>
      have none := same x
      simp [self] at none
    | cons y ys =>
      obtain ⟨leastX, restX⟩ := List.pairwise_cons.1 left
      obtain ⟨leastY, restY⟩ := List.pairwise_cons.1 right
      -- Each head occurs in the other list, so neither is greater than the other.
      have inX : y ∈ x :: xs := by
        have mem : y ∈ (y :: ys).filter (tied cmp y) := by simp [self]
        rw [← same y] at mem
        exact (List.mem_filter.1 mem).1
      have inY : x ∈ y :: ys := by
        have mem : x ∈ (x :: xs).filter (tied cmp x) := by simp [self]
        rw [same x] at mem
        exact (List.mem_filter.1 mem).1
      have tie : tied cmp x y := by
        rw [tied, Ordering.isEq_iff_eq_eq]
        apply OrientedCmp.isLE_antisymm
        · rcases List.mem_cons.1 inX with rfl | mem
          · exact ReflCmp.isLE_rfl
          · exact leastX y mem
        · rcases List.mem_cons.1 inY with rfl | mem
          · exact ReflCmp.isLE_rfl
          · exact leastY x mem
      have heads := same x
      rw [List.filter_cons_of_pos (self x), List.filter_cons_of_pos tie] at heads
      obtain ⟨rfl, -⟩ := List.cons.inj heads
      have tails := ih ys restX restY fun z => by
        have all := same z
        by_cases h : tied cmp z x <;> simpa [List.filter_cons, h] using all
      rw [tails]

theorem stableSort_unique (xs ys : List α) (sorted : ys.Pairwise fun a b => (cmp a b).isLE)
    (same : ∀ z, ys.filter (tied cmp z) = xs.filter (tied cmp z)) : stableSort cmp xs = ys := by
  apply eq_of_sorted_of_filter cmp _ _ (stableSort_sorted cmp xs) sorted
  intro z
  rw [filter_stableSort, same]

theorem stableSort_of_sorted {xs : List α} (h : xs.Pairwise fun a b => (cmp a b).isLE) :
    stableSort cmp xs = xs :=
  stableSort_unique cmp xs xs h fun _ => rfl

theorem stableSort_filter (p : α → Bool) (xs : List α) :
    (stableSort cmp xs).filter p = stableSort cmp (xs.filter p) := by
  symm
  apply stableSort_unique
  · exact (stableSort_sorted cmp xs).filter p
  · intro z
    have swap (ys : List α) :
        (ys.filter p).filter (tied cmp z) = (ys.filter (tied cmp z)).filter p := by
      simp only [List.filter_filter, Bool.and_comm]
    rw [swap, swap, filter_stableSort]

theorem filter_append_filter_of_sorted (p : α → Bool) {xs : List α}
    (sorted : xs.Pairwise fun a b => (cmp a b).isLE)
    (h : ∀ a ∈ xs, ∀ b ∈ xs, p a = true → p b = false → cmp a b = .lt) :
    xs.filter p ++ xs.filter (fun x => !p x) = xs := by
  induction xs with
  | nil => rfl
  | cons x xs ih =>
    obtain ⟨least, rest⟩ := List.pairwise_cons.1 sorted
    have tail := ih rest fun a ha b hb =>
      h a (List.mem_cons_of_mem x ha) b (List.mem_cons_of_mem x hb)
    cases first : p x with
    | true => simp [first, tail]
    | false =>
      -- The lesser elements would stand before this one.
      have none : xs.filter p = [] := by
        refine List.filter_eq_nil_iff.2 fun a mem less => ?_
        have below := h a (List.mem_cons_of_mem x mem) x (List.mem_cons_self ..) less first
        have above := least a mem
        rw [@OrientedCmp.eq_swap _ cmp, below] at above
        cases above
      rw [none, List.nil_append] at tail
      simp [first, none, tail]

theorem stableSort_partition (p : α → Bool) (xs : List α)
    (h : ∀ a ∈ xs, ∀ b ∈ xs, p a = true → p b = false → cmp a b = .lt) :
    stableSort cmp xs =
      stableSort cmp (xs.filter p) ++ stableSort cmp (xs.filter fun x => !p x) := by
  rw [← stableSort_filter, ← stableSort_filter]
  symm
  refine filter_append_filter_of_sorted cmp p (stableSort_sorted cmp xs) fun a ha b hb => ?_
  exact h a ((mem_stableSort cmp a xs).1 ha) b ((mem_stableSort cmp b xs).1 hb)

/-- A sort followed by another is one sort, in which the first breaks the ties of the second. -/
theorem stableSort_stableSort (first : α → α → Ordering) [TransCmp first] (xs : List α) :
    stableSort cmp (stableSort first xs) = stableSort (compareLex cmp first) xs := by
  symm
  apply stableSort_unique
  · -- Elements that tie in the second sort are still in the order of the first.
    have within (z : α) :
        ((stableSort cmp (stableSort first xs)).filter (tied cmp z)).Pairwise
          fun a b => (first a b).isLE := by
      rw [filter_stableSort]
      exact (stableSort_sorted first xs).filter _
    have outer := stableSort_sorted cmp (stableSort first xs)
    generalize stableSort cmp (stableSort first xs) = ys at within outer ⊢
    induction ys with
    | nil => exact .nil
    | cons y ys ih =>
      obtain ⟨least, rest⟩ := List.pairwise_cons.1 outer
      have tail (z : α) := (within z).sublist ((List.sublist_cons_self y ys).filter _)
      refine List.pairwise_cons.2 ⟨fun w mem => ?_, ih tail rest⟩
      have order := least w mem
      have tie (h : tied cmp y w) : (first y w).isLE := by
        have ties := within y
        have self : tied cmp y y := by simp [tied, ReflCmp.compare_self]
        rw [List.filter_cons_of_pos self] at ties
        exact (List.pairwise_cons.1 ties).1 w (List.mem_filter.2 ⟨mem, h⟩)
      rw [tied] at tie
      rw [compareLex]
      cases h : cmp y w <;> simp_all
  · intro z
    have split (zs : List α) : zs.filter (tied (compareLex cmp first) z) =
        (zs.filter (tied first z)).filter (tied cmp z) := by
      rw [List.filter_filter]
      congr 1
      funext w
      simp only [tied, compareLex]
      cases cmp z w <;> simp
    have swap (zs : List α) : (zs.filter (tied first z)).filter (tied cmp z) =
        (zs.filter (tied cmp z)).filter (tied first z) := by
      simp only [List.filter_filter, Bool.and_comm]
    rw [split, swap, filter_stableSort, ← swap, filter_stableSort, split]

theorem stableSort_eq_mergeSort (xs : List α) :
    stableSort cmp xs = xs.mergeSort fun a b => (cmp a b).isLE := by
  have total (a b : α) : (cmp a b).isLE || (cmp b a).isLE := by
    rw [@OrientedCmp.eq_swap _ cmp _ b a]
    cases cmp a b <;> rfl
  have trans (a b c : α) : (cmp a b).isLE → (cmp b c).isLE → (cmp a c).isLE :=
    TransCmp.isLE_trans
  apply stableSort_unique
  · exact List.pairwise_mergeSort trans total xs
  · intro z
    -- The elements of one class are a sorted sublist, which merge sort keeps.
    have ties : (xs.filter (tied cmp z)).Pairwise fun a b => (cmp a b).isLE := by
      refine List.pairwise_filter.2 (List.pairwise_of_forall fun a b left right => ?_)
      have same := tied_congr cmp left b
      rw [right, eq_comm, tied, Ordering.isEq_iff_eq_eq] at same
      simp [same]
    have kept := (List.sublist_mergeSort trans total ties List.filter_sublist).filter (tied cmp z)
    simp only [List.filter_filter, Bool.and_self] at kept
    have size := ((List.mergeSort_perm xs fun a b => (cmp a b).isLE).filter (tied cmp z)).length_eq
    exact (kept.eq_of_length size.symm).symm

end Preorder

def PreorderOn (cmp : α → α → Ordering) (xs : List α) : Prop :=
  TransCmp fun a b : { x // x ∈ xs } => cmp a.1 b.1

namespace PreorderOn

variable {cmp first : α → α → Ordering} {xs : List α}

theorem subset {ys : List α} (h : PreorderOn cmp xs) (sub : ys ⊆ xs) : PreorderOn cmp ys where
  eq_swap {a b} := h.eq_swap (a := ⟨a.1, sub a.2⟩) (b := ⟨b.1, sub b.2⟩)
  isLE_trans {a b c} :=
    h.isLE_trans (a := ⟨a.1, sub a.2⟩) (b := ⟨b.1, sub b.2⟩) (c := ⟨c.1, sub c.2⟩)

theorem stableSort_sorted (h : PreorderOn cmp xs) :
    (stableSort cmp xs).Pairwise fun a b => (cmp a b).isLE := by
  have : TransCmp fun a b : { x // x ∈ xs } => cmp a.1 b.1 := h
  have restricted := EntityQuery.stableSort_sorted
    (fun a b : { x // x ∈ xs } => cmp a.1 b.1) xs.attach
  have mapped := stableSort_map cmp Subtype.val xs.attach
  rw [List.attach_map_subtype_val] at mapped
  rw [mapped, List.pairwise_map]
  exact restricted

theorem stableSort_eq_mergeSort (h : PreorderOn cmp xs) :
    stableSort cmp xs = xs.mergeSort fun a b => (cmp a b).isLE := by
  have : TransCmp fun a b : { x // x ∈ xs } => cmp a.1 b.1 := h
  have restricted := congrArg (List.map Subtype.val)
    (EntityQuery.stableSort_eq_mergeSort (fun a b : { x // x ∈ xs } => cmp a.1 b.1) xs.attach)
  rw [← stableSort_map, List.map_mergeSort (s := fun a b => (cmp a b).isLE) (fun _ _ _ _ => rfl),
    List.attach_map_subtype_val] at restricted
  exact restricted

theorem stableSort_filter (h : PreorderOn cmp xs) (p : α → Bool) :
    (stableSort cmp xs).filter p = stableSort cmp (xs.filter p) := by
  have : TransCmp fun a b : { x // x ∈ xs } => cmp a.1 b.1 := h
  have restricted := congrArg (List.map Subtype.val)
    (EntityQuery.stableSort_filter (fun a b : { x // x ∈ xs } => cmp a.1 b.1)
      (fun a => p a.1) xs.attach)
  have below (ys : List { x // x ∈ xs }) :
      (ys.filter fun a => p a.1).map Subtype.val = (ys.map Subtype.val).filter p :=
    List.filter_map.symm
  rw [below, ← stableSort_map, ← stableSort_map, below, List.attach_map_subtype_val] at restricted
  exact restricted

theorem stableSort_stableSort (h : PreorderOn cmp xs) (hfirst : PreorderOn first xs) :
    stableSort cmp (stableSort first xs) = stableSort (compareLex cmp first) xs := by
  have : TransCmp fun a b : { x // x ∈ xs } => cmp a.1 b.1 := h
  have : TransCmp fun a b : { x // x ∈ xs } => first a.1 b.1 := hfirst
  have restricted := congrArg (List.map Subtype.val)
    (EntityQuery.stableSort_stableSort (fun a b : { x // x ∈ xs } => cmp a.1 b.1)
      (fun a b => first a.1 b.1) xs.attach)
  rw [← stableSort_map, ← stableSort_map, List.attach_map_subtype_val] at restricted
  rw [restricted]
  exact (stableSort_map (compareLex cmp first) Subtype.val xs.attach).symm.trans
    (by rw [List.attach_map_subtype_val])

end PreorderOn

theorem isPreorderOn_iff {cmp : α → α → Ordering} {xs : List α} :
    isPreorderOn cmp xs = true ↔ PreorderOn cmp xs := by
  simp only [isPreorderOn, List.all_eq_true, Bool.and_eq_true, beq_iff_eq, Bool.or_eq_true,
    Bool.not_eq_true', ← Bool.not_eq_true]
  constructor
  · intro h
    refine
      { eq_swap := fun {a b} => (h a.1 a.2 b.1 b.2).1
        isLE_trans := fun {a b c} left right => ?_ }
    rcases (h a.1 a.2 b.1 b.2).2 c.1 c.2 with (above | above) | le
    · exact absurd left above
    · exact absurd right above
    · exact le
  · intro h a ha b hb
    refine ⟨h.eq_swap (a := ⟨a, ha⟩) (b := ⟨b, hb⟩), fun c hc => ?_⟩
    by_cases left : (cmp a b).isLE
    next =>
      by_cases right : (cmp b c).isLE
      next => exact .inr (h.isLE_trans (a := ⟨a, ha⟩) (b := ⟨b, hb⟩) (c := ⟨c, hc⟩) left right)
      next => exact .inl (.inr right)
    next => exact .inl (.inl left)

theorem sortSettles_iff {cmp : α → α → Ordering} {xs : List α} :
    sortSettles cmp xs = true ↔ xs.length ≤ insertionLimit ∨ PreorderOn cmp xs := by
  simp [sortSettles, isPreorderOn_iff]

theorem sortSettles_perm {cmp : α → α → Ordering} {xs ys : List α} (h : xs.Perm ys) :
    sortSettles cmp xs = sortSettles cmp ys := by
  rw [Bool.eq_iff_iff, sortSettles_iff, sortSettles_iff, h.length_eq]
  exact or_congr_right ⟨fun order => order.subset h.symm.subset, fun order => order.subset h.subset⟩

end EntityQuery
