import EntityQuery.Proofs.Text.Numeral
import EntityQuery.Uuid

set_option autoImplicit false

namespace EntityQuery.Uuid

open Text

theorem hexValue?_digitChar {d : Nat} (h : d < 16) : hexValue? d.digitChar = some d := by
  have all : ∀ d : Fin 16, hexValue? (Nat.digitChar d) = some d.val := by decide
  exact all ⟨d, h⟩

theorem readHex?_append (acc : Nat) (cs ds : List Char) :
    readHex? acc (cs ++ ds) = (readHex? acc cs).bind fun n => readHex? n ds := by
  induction cs generalizing acc with
  | nil => rfl
  | cons c cs ih =>
    rw [List.cons_append, readHex?, readHex?]
    cases hexValue? c with
    | none => rfl
    | some d => exact ih _

theorem readHex?_toDigits (n : Nat) : readHex? 0 (Nat.toDigits 16 n) = some n := by
  induction n using Nat.strongRecOn with
  | ind n ih =>
    rw [Nat.toDigits_eq_if (by decide)]
    split
    next small => simp [readHex?, hexValue?_digitChar small]
    next large =>
      rw [readHex?_append, ih (n / 16) (by omega), Option.bind_some, readHex?,
        hexValue?_digitChar (Nat.mod_lt n (by decide)), Option.bind_some, readHex?, Option.some_inj]
      omega

theorem readHex?_zeros (count : Nat) (cs : List Char) :
    readHex? 0 (List.replicate count '0' ++ cs) = readHex? 0 cs := by
  induction count with
  | zero => rfl
  | succ count ih => exact ih

theorem length_hexDigits (u : Uuid) : u.hexDigits.length = 32 := by
  have short : (Nat.toDigits 16 u.bits.toNat).length ≤ 32 :=
    (Nat.length_toDigits_le_iff (by decide) (by decide)).2 u.bits.isLt
  rw [hexDigits, List.length_append, List.length_replicate]
  omega

theorem readDigits?_hexDigits (u : Uuid) : readDigits? u.hexDigits = some u := by
  rw [readDigits?, if_pos u.length_hexDigits, hexDigits, readHex?_zeros, readHex?_toDigits]
  simp

theorem groups_append {ds : List Char} (size : ds.length = 32) :
    ds.take 8 ++ ((ds.drop 8).take 4 ++ ((ds.drop 12).take 4 ++ ((ds.drop 16).take 4 ++
      (ds.drop 20).take 12))) = ds := by
  have next (start size : Nat) :
      (ds.drop start).take size ++ ds.drop (start + size) = ds.drop start := by
    rw [← List.drop_drop, List.take_append_drop]
  have last : (ds.drop 20).take 12 = ds.drop 20 := List.take_of_length_le (by simp [size])
  rw [last, next 16 4, next 12 4, next 8 4, List.take_append_drop]

theorem readGroups?_toChars (u : Uuid) : readGroups? u.toChars = readDigits? u.hexDigits := by
  have size := u.length_hexDigits
  rw [toChars, readGroups?]
  generalize u.hexDigits = ds at size ⊢
  -- Every group is cut out where it was put, between the hyphens.
  simp [size, List.drop_append, List.drop_take, List.take_take,
    groups_append size]

theorem length_toChars (u : Uuid) : u.toChars.length = 36 := by
  simp [toChars, u.length_hexDigits]

theorem isBlank_of_hexValue? {c : Char} (h : hexValue? c ≠ none) : isBlank c = false := by
  have code : 48 ≤ c.toNat ∧ c.toNat ≤ 57 ∨ 97 ≤ c.toNat ∧ c.toNat ≤ 102 ∨
      65 ≤ c.toNat ∧ c.toNat ≤ 70 := by
    simp only [hexValue?, Char.le_def, UInt32.le_iff_toNat_le] at h
    split_ifs at h with digit small large
    · exact .inl digit
    · exact .inr (.inl small)
    · exact .inr (.inr large)
    · exact absurd rfl h
  simp only [isBlank, Bool.or_eq_false_iff, Bool.and_eq_false_iff, decide_eq_false_iff_not,
    beq_eq_false_iff_ne]
  omega

theorem solid_of_readHex? {acc n : Nat} {cs : List Char} (h : readHex? acc cs = some n) :
    Solid cs := by
  induction cs generalizing acc with
  | nil => exact solid_nil
  | cons c cs ih =>
    obtain ⟨d, digit, rest⟩ := Option.bind_eq_some_iff.1 h
    exact solid_cons.2 ⟨isBlank_of_hexValue? (by simp [digit]), ih rest⟩

theorem toChars_solid (u : Uuid) : Solid u.toChars := by
  have digits : Solid u.hexDigits := by
    have read : readHex? 0 u.hexDigits = some u.bits.toNat := by
      rw [hexDigits, readHex?_zeros, readHex?_toDigits]
    exact solid_of_readHex? read
  have group (start size : Nat) : Solid ((u.hexDigits.drop start).take size) :=
    fun c mem => digits c (List.mem_of_mem_drop (List.mem_of_mem_take mem))
  have hyphen : isBlank '-' = false := by decide
  simp only [toChars, solid_append, solid_cons, group, hyphen, and_self]

theorem read?_toText (u : Uuid) : read? u.toText.toList = some u := by
  rw [toText, String.toList_ofList, read?, u.length_toChars]
  exact u.readGroups?_toChars.trans u.readDigits?_hexDigits

end EntityQuery.Uuid
