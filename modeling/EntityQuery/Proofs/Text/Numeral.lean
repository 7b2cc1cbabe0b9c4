import EntityQuery.Text.Basic
import EntityQuery.Text.Numeral
import Mathlib.Data.List.Basic

set_option autoImplicit false

namespace EntityQuery.Text

variable {n width : Nat} {c : Char}

theorem isDigit_of_mem_digits (h : c ∈ digits n) : c.isDigit = true :=
  Nat.isDigit_of_mem_toDigits (by decide) (by decide) h

theorem isDigit_of_mem_paddedDigits (h : c ∈ paddedDigits width n) : c.isDigit = true := by
  rcases List.mem_append.1 h with zero | digit
  · obtain rfl := List.eq_of_mem_replicate zero
    rfl
  · exact isDigit_of_mem_digits digit

theorem paddedDigits_ne_nil (width n : Nat) : paddedDigits width n ≠ [] := by
  simp [paddedDigits, digits]

theorem length_paddedDigits (positive : 0 < width) (fits : n < Nat.pow 10 width) :
    (paddedDigits width n).length = width := by
  have short : (digits n).length ≤ width :=
    (Nat.length_toDigits_le_iff (by decide) positive).2 fits
  rw [paddedDigits, List.length_append, List.length_replicate]
  omega

theorem ofDigitChars_paddedDigits (width n : Nat) :
    Nat.ofDigitChars 10 (paddedDigits width n) 0 = n := by
  rw [paddedDigits, Nat.ofDigitChars_append, Nat.ofDigitChars_replicate_zero, Nat.mul_zero]
  exact Nat.ofDigitChars_ten_toDigits

theorem isDigit_iff (c : Char) : c.isDigit = true ↔ 48 ≤ c.toNat ∧ c.toNat ≤ 57 := by
  delta Char.isDigit
  simp [UInt32.le_iff_toNat_le]

theorem isBlank_of_isDigit (h : c.isDigit = true) : isBlank c = false := by
  rw [isDigit_iff] at h
  simp only [isBlank, Bool.or_eq_false_iff, Bool.and_eq_false_iff, decide_eq_false_iff_not,
    beq_eq_false_iff_ne]
  omega

theorem skipBlanks_cons (h : isBlank c = false) (cs : List Char) :
    skipBlanks (c :: cs) = c :: cs := by
  rw [skipBlanks, List.dropWhile_cons_of_neg (by simp [h])]

theorem skipBlanks_digits {ds : List Char} (digit : ∀ c ∈ ds, c.isDigit = true) (some : ds ≠ [])
    (cs : List Char) : skipBlanks (ds ++ cs) = ds ++ cs := by
  cases ds with
  | nil => exact absurd rfl some
  | cons d ds => exact skipBlanks_cons (isBlank_of_isDigit (digit d (by simp))) _

def Stops (cs : List Char) : Prop :=
  ∀ c ∈ cs.head?, c.isDigit = false

theorem stops_cons (h : c.isDigit = false) {cs : List Char} : Stops (c :: cs) := by
  simpa [Stops] using h

theorem takeWhile_digits {ds cs : List Char} (digit : ∀ c ∈ ds, c.isDigit = true)
    (stops : Stops cs) : (ds ++ cs).takeWhile Char.isDigit = ds := by
  rw [List.takeWhile_append_of_pos digit]
  cases cs with
  | nil => simp
  | cons c cs => simp [stops c rfl]

theorem readNat?_digits (n : Nat) : readNat? (digits n) = some n := by
  have some : digits n ≠ [] := by simp [digits]
  have digit : (digits n).all Char.isDigit = true :=
    List.all_eq_true.2 fun _ => isDigit_of_mem_digits
  rw [readNat?, if_pos ⟨some, digit⟩, digits, Nat.ofDigitChars_ten_toDigits]

theorem readInt?_signedDigits (n : Int) : readInt? (signedDigits n) = some n := by
  rw [signedDigits]
  split
  next below =>
    rw [readInt?, readNat?_digits]
    change some (-(n.natAbs : Int)) = some n
    rw [Option.some_inj]
    omega
  next =>
    have digit : ∀ c ∈ (digits n.natAbs).head?, c.isDigit = true :=
      fun c mem => isDigit_of_mem_digits (List.mem_of_mem_head? mem)
    rw [readInt?.eq_def]
    split
    next minus => exact absurd (digit '-' (by simp [minus])) (by decide)
    next plus => exact absurd (digit '+' (by simp [plus])) (by decide)
    next =>
      rw [readNat?_digits, Option.map_some, Option.some_inj, Int.ofNat_eq_natCast]
      omega

def Solid (cs : List Char) : Prop :=
  ∀ c ∈ cs, isBlank c = false

instance : DecidablePred Solid := fun cs =>
  List.decidableBAll (fun c => isBlank c = false) cs

@[simp] theorem solid_nil : Solid [] :=
  List.forall_mem_nil _

@[simp] theorem solid_cons {cs : List Char} :
    Solid (c :: cs) ↔ isBlank c = false ∧ Solid cs :=
  List.forall_mem_cons

@[simp] theorem solid_append {cs ds : List Char} : Solid (cs ++ ds) ↔ Solid cs ∧ Solid ds :=
  List.forall_mem_append

theorem solid_digits (n : Nat) : Solid (digits n) :=
  fun _ mem => isBlank_of_isDigit (isDigit_of_mem_digits mem)

@[simp] theorem solid_paddedDigits (width n : Nat) : Solid (paddedDigits width n) :=
  fun _ mem => isBlank_of_isDigit (isDigit_of_mem_paddedDigits mem)

theorem solid_signedDigits (n : Int) : Solid (signedDigits n) := by
  rw [signedDigits]
  split
  next => exact solid_cons.2 ⟨by decide, solid_digits _⟩
  next => exact solid_digits _

theorem skipBlanks_of_solid {cs : List Char} (h : Solid cs) : skipBlanks cs = cs := by
  cases cs with
  | nil => rfl
  | cons c cs => exact skipBlanks_cons (solid_cons.1 h).1 cs

theorem trimChars_of_solid {cs : List Char} (h : Solid cs) : trimChars cs = cs := by
  have turned : Solid cs.reverse := fun c mem => h c (List.mem_reverse.1 mem)
  rw [trimChars, skipBlanks_of_solid h, skipBlanks_of_solid turned, List.reverse_reverse]

end EntityQuery.Text

namespace EntityQuery

theorem int64?_toInt (n : Int64) : int64? n.toInt = some n := by
  have least := n.le_toInt
  have greatest := n.toInt_lt
  rw [int64?, if_pos (by omega), Int64.ofInt_toInt]

end EntityQuery
