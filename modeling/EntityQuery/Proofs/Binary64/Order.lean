import EntityQuery.Proofs.Binary64.Rounding

set_option autoImplicit false

namespace EntityQuery.Binary64

variable {x y z : Binary64} {m n : Int}

theorem numericKey_eq (x : Binary64) :
    x.numericKey = if x.totalKey < 0 then x.totalKey + 1 else x.totalKey := by
  rw [numericKey, totalKey]
  cases x.isNegative with
  | false => simp
  | true =>
    simp only [if_true]
    split <;> omega

theorem magnitude_eq (x : Binary64) :
    (x.magnitude : Int) = if x.totalKey < 0 then -x.totalKey - 1 else x.totalKey := by
  rw [totalKey]
  cases x.isNegative with
  | false => simp
  | true =>
    simp only [if_true]
    split <;> omega

theorem numericKey_mono (h : x.totalKey ≤ y.totalKey) : x.numericKey ≤ y.numericKey := by
  rw [numericKey_eq, numericKey_eq]
  split <;> split <;> omega

theorem totalKey_lt (h : x.numericKey < y.numericKey) : x.totalKey < y.totalKey := by
  by_contra less
  have order := numericKey_mono (show y.totalKey ≤ x.totalKey by omega)
  omega

theorem isNaN_ofInt (n : Int) : (ofInt n).isNaN = false := by
  have bound := magnitudeOfRatio_le n.natAbs
  have magnitude := (ofInt n).magnitude_eq
  rw [totalKey_ofInt] at magnitude
  rw [isNaN, decide_eq_false_iff_not]
  split at magnitude <;> split at magnitude <;> omega

theorem compare?_eq_lt_iff : x.compare? y = some .lt ↔
    x.isNaN = false ∧ y.isNaN = false ∧ x.numericKey < y.numericKey := by
  rw [compare?]
  cases x.isNaN <;> cases y.isNaN <;> simp [Int.compare_eq_lt]

theorem compare?_swap (x y : Binary64) :
    y.compare? x = (x.compare? y).map Ordering.swap := by
  rw [compare?, compare?]
  cases x.isNaN <;> cases y.isNaN <;> simp [Int.compare_swap]

theorem compare?_trans (first : x.compare? y = some .lt) (second : y.compare? z = some .lt) :
    x.compare? z = some .lt := by
  rw [compare?_eq_lt_iff] at first second ⊢
  exact ⟨first.1, second.2.1, first.2.2.trans second.2.2⟩

theorem totalCompare_of_compare? (h : x.compare? y = some .lt) : x.totalCompare y = .lt := by
  rw [totalCompare, Int.compare_eq_lt]
  exact totalKey_lt (compare?_eq_lt_iff.1 h).2.2

theorem compare?_of_le_left (h : m ≤ n) (less : (ofInt n).compare? x = some .lt) :
    (ofInt m).compare? x = some .lt := by
  rw [compare?_eq_lt_iff] at less ⊢
  have order := numericKey_mono (ofInt_mono h)
  exact ⟨isNaN_ofInt m, less.2.1, order.trans_lt less.2.2⟩

theorem compare?_of_le_right (h : m ≤ n) (less : x.compare? (ofInt m) = some .lt) :
    x.compare? (ofInt n) = some .lt := by
  rw [compare?_eq_lt_iff] at less ⊢
  have order := numericKey_mono (ofInt_mono h)
  exact ⟨less.1, isNaN_ofInt n, less.2.2.trans_le order⟩

theorem lt_of_compare?_ofInt (less : (ofInt m).compare? (ofInt n) = some .lt) : m < n := by
  by_contra more
  have order := numericKey_mono (ofInt_mono (show n ≤ m by omega))
  have keys := (compare?_eq_lt_iff.1 less).2.2
  omega

end EntityQuery.Binary64
