import EntityQuery.Text.Basic
import Mathlib.Data.List.DropRight

set_option autoImplicit false

namespace EntityQuery.Text

theorem splitChars_ne_nil (sep : Char) (cs : List Char) : splitChars sep cs ≠ [] := by
  fun_cases splitChars sep cs <;> simp_all

theorem splitChars_of_notMem {sep : Char} {cs : List Char} (h : sep ∉ cs) :
    splitChars sep cs = [cs] := by
  induction cs with
  | nil => rfl
  | cons c cs ih =>
    have distinct : c ≠ sep := fun same => h (same ▸ List.mem_cons_self)
    have rest := ih fun present => h (List.mem_cons_of_mem c present)
    simp only [splitChars, distinct, if_false, rest]

theorem splitChars_append (sep : Char) (cs ds : List Char) :
    splitChars sep (cs ++ sep :: ds) = splitChars sep cs ++ splitChars sep ds := by
  induction cs with
  | nil => simp only [List.nil_append, List.cons_append, splitChars, if_true]
  | cons c cs ih =>
    by_cases same : c = sep
    next => simp only [List.cons_append, splitChars, same, if_true, ih]
    next =>
      cases pieces : splitChars sep cs with
      | nil => exact absurd pieces (splitChars_ne_nil sep cs)
      | cons piece rest =>
        rw [pieces] at ih
        simp only [List.cons_append, splitChars, same, if_false, ih, pieces]

theorem split_of_notMem {sep : Char} {s : String} (h : sep ∉ s.toList) : split sep s = [s] := by
  rw [split, splitChars_of_notMem h, List.map_singleton, String.ofList_toList]

theorem split_append (sep : Char) (s t : String) :
    split sep (s ++ String.singleton sep ++ t) = split sep s ++ split sep t := by
  have chars : (s ++ String.singleton sep ++ t).toList = s.toList ++ sep :: t.toList := by
    simp
  rw [split, chars, splitChars_append, List.map_append, split, split]

theorem split_append_of_notMem {sep : Char} {piece : String} (h : sep ∉ piece.toList)
    (s : String) : split sep (piece ++ String.singleton sep ++ s) = piece :: split sep s := by
  rw [split_append, split_of_notMem h, List.singleton_append]

theorem join_cons (sep piece : String) {pieces : List String} (h : pieces ≠ []) :
    join sep (piece :: pieces) = piece ++ sep ++ join sep pieces := by
  cases pieces with
  | nil => exact absurd rfl h
  | cons next rest => rfl

theorem join_concat (sep : String) {pieces : List String} (h : pieces ≠ []) (last : String) :
    join sep (pieces ++ [last]) = join sep pieces ++ sep ++ last := by
  induction pieces with
  | nil => exact absurd rfl h
  | cons piece rest ih =>
    by_cases single : rest = []
    next =>
      subst single
      rfl
    next =>
      have more : rest ++ [last] ≠ [] := by simp
      rw [List.cons_append, join_cons _ _ more, ih single, join_cons _ _ single]
      simp only [String.append_assoc]

theorem byteLength_le_join (sep : String) {piece : String} {pieces : List String}
    (mem : piece ∈ pieces) : byteLength piece ≤ byteLength (join sep pieces) := by
  induction pieces with
  | nil => cases mem
  | cons first rest ih =>
    by_cases last : rest = []
    next =>
      subst last
      obtain rfl := List.mem_singleton.1 mem
      exact Nat.le_refl _
    next =>
      rw [join_cons _ _ last]
      simp only [byteLength, String.utf8ByteSize_append] at ih ⊢
      rcases List.mem_cons.1 mem with rfl | later
      · omega
      · have := ih later
        omega

theorem join_concat_concat (sep : String) (pieces : List String) (piece last : String) :
    join sep (pieces ++ [piece] ++ [last]) = join sep (pieces ++ [piece ++ sep ++ last]) := by
  have some : pieces ++ [piece] ≠ [] := by simp
  rw [join_concat _ some]
  by_cases none : pieces = []
  next =>
    subst none
    rfl
  next =>
    rw [join_concat _ none, join_concat _ none]
    simp only [String.append_assoc]

theorem join_splitChars (sep : Char) (cs : List Char) :
    join (String.singleton sep) ((splitChars sep cs).map String.ofList) = String.ofList cs := by
  induction cs with
  | nil => rfl
  | cons c cs ih =>
    have pieces := splitChars_ne_nil sep cs
    by_cases same : c = sep
    next =>
      simp only [splitChars, same, if_true, List.map_cons]
      rw [join_cons _ _ (by simpa using pieces), ih]
      simp
    next =>
      cases split : splitChars sep cs with
      | nil => exact absurd split pieces
      | cons piece rest =>
        rw [split] at ih
        simp only [splitChars, same, if_false, split]
        cases rest with
        | nil => simpa [join, ← String.toList_inj] using ih
        | cons next rest => simpa [join, ← String.toList_inj] using ih

theorem join_split (sep : Char) (s : String) :
    join (String.singleton sep) (split sep s) = s := by
  rw [split, join_splitChars, String.ofList_toList]

theorem notMem_of_mem_splitChars {sep : Char} {cs piece : List Char}
    (h : piece ∈ splitChars sep cs) : sep ∉ piece := by
  induction cs generalizing piece with
  | nil => simp_all [splitChars]
  | cons c cs ih =>
    by_cases same : c = sep
    next =>
      simp only [splitChars, same, if_true] at h
      rcases List.mem_cons.1 h with rfl | later
      · simp
      · exact ih later
    next =>
      cases pieces : splitChars sep cs with
      | nil => exact absurd pieces (splitChars_ne_nil sep cs)
      | cons first rest =>
        simp only [splitChars, same, if_false, pieces] at h
        rw [pieces] at ih
        rcases List.mem_cons.1 h with rfl | later
        · have apart := ih List.mem_cons_self
          simp [apart, Ne.symm same]
        · exact ih (List.mem_cons_of_mem first later)

theorem notMem_of_mem_split {sep : Char} {s piece : String} (h : piece ∈ split sep s) :
    sep ∉ piece.toList := by
  obtain ⟨cs, mem, rfl⟩ := List.mem_map.1 h
  rw [String.toList_ofList]
  exact notMem_of_mem_splitChars mem

theorem split_join (sep : Char) {pieces : List String} (h : pieces ≠ []) :
    split sep (join (String.singleton sep) pieces) = pieces.flatMap (split sep) := by
  induction pieces with
  | nil => exact absurd rfl h
  | cons piece rest ih =>
    by_cases last : rest = []
    next =>
      subst last
      exact (List.flatMap_singleton (split sep) piece).symm
    next => rw [join_cons _ _ last, split_append, ih last, List.flatMap_cons]

theorem split_join_of_notMem {sep : Char} {pieces : List String} (h : pieces ≠ [])
    (apart : ∀ piece ∈ pieces, sep ∉ piece.toList) :
    split sep (join (String.singleton sep) pieces) = pieces := by
  rw [split_join sep h, List.flatMap_congr fun piece mem => split_of_notMem (apart piece mem)]
  exact List.flatMap_singleton' pieces

theorem trimChars_trimChars (cs : List Char) : trimChars (trimChars cs) = trimChars cs := by
  -- Trimming at the end keeps the first character, unless it leaves nothing.
  have start : (List.rdropWhile isBlank (skipBlanks cs)).dropWhile isBlank =
      List.rdropWhile isBlank (skipBlanks cs) := by
    rw [List.dropWhile_eq_self_iff]
    intro some
    have first := (List.rdropWhile_prefix isBlank (l := skipBlanks cs)).getElem some
    rw [first]
    exact List.dropWhile_get_zero_not isBlank cs _
  have twice : trimChars (trimChars cs) = List.rdropWhile isBlank
      ((List.rdropWhile isBlank (skipBlanks cs)).dropWhile isBlank) := rfl
  rw [twice, start]
  exact List.rdropWhile_idempotent isBlank (skipBlanks cs)

theorem toList_trim (s : String) : (trim s).toList = trimChars s.toList :=
  String.toList_ofList

@[simp] theorem trim_trim (s : String) : trim (trim s) = trim s := by
  rw [trim, trim, String.toList_ofList, trimChars_trimChars]

theorem isBlankText_trim (s : String) : isBlankText (trim s) = isBlankText s := by
  rw [isBlankText, isBlankText, trim_trim]

theorem trimChars_split (cs : List Char) :
    ∃ front back, (∀ c ∈ front, isBlank c = true) ∧ (∀ c ∈ back, isBlank c = true) ∧
      cs = front ++ trimChars cs ++ back := by
  refine ⟨cs.takeWhile isBlank, ((skipBlanks cs).reverse.takeWhile isBlank).reverse, ?_, ?_, ?_⟩
  · exact fun c mem => List.mem_takeWhile_imp mem
  · exact fun c mem => List.mem_takeWhile_imp (List.mem_reverse.1 mem)
  · rw [trimChars, List.append_assoc, ← List.reverse_append, skipBlanks, skipBlanks,
      List.takeWhile_append_dropWhile, List.reverse_reverse, List.takeWhile_append_dropWhile]

theorem trimChars_pad {front back : List Char} (before : ∀ c ∈ front, isBlank c = true)
    (after : ∀ c ∈ back, isBlank c = true) (cs : List Char) :
    trimChars (front ++ cs ++ back) = trimChars cs := by
  have start : skipBlanks (front ++ cs ++ back) = skipBlanks (cs ++ back) := by
    rw [List.append_assoc]
    exact List.dropWhile_append_of_pos before
  rw [trimChars, trimChars, start]
  by_cases blank : skipBlanks cs = []
  next =>
    have all : ∀ c ∈ cs ++ back, isBlank c = true :=
      List.forall_mem_append.2 ⟨List.dropWhile_eq_nil_iff.1 blank, after⟩
    have none : skipBlanks (cs ++ back) = [] := List.dropWhile_eq_nil_iff.2 all
    rw [none, blank]
  next =>
    have kept : skipBlanks (cs ++ back) = skipBlanks cs ++ back := by
      rw [skipBlanks] at blank ⊢
      rw [List.dropWhile_append, if_neg (by rwa [List.isEmpty_iff])]
      rfl
    have ending :
        skipBlanks (skipBlanks cs ++ back).reverse = skipBlanks (skipBlanks cs).reverse := by
      rw [List.reverse_append]
      exact List.dropWhile_append_of_pos fun c mem => after c (List.mem_reverse.1 mem)
    rw [kept, ending]

theorem containsChars_iff {piece cs : List Char} :
    containsChars piece cs = true ↔ piece <:+: cs := by
  induction cs with
  | nil => simp [containsChars]
  | cons c cs ih =>
    rw [containsChars, Bool.or_eq_true, ih, List.isPrefixOf_iff_prefix, List.infix_cons_iff]

theorem foldAscii_append (s t : String) : foldAscii (s ++ t) = foldAscii s ++ foldAscii t := by
  simp [foldAscii]

theorem isAlpha_iff (c : Char) :
    c.isAlpha = true ↔ 65 ≤ c.toNat ∧ c.toNat ≤ 90 ∨ 97 ≤ c.toNat ∧ c.toNat ≤ 122 := by
  delta Char.isAlpha Char.isUpper Char.isLower
  simp [UInt32.le_iff_toNat_le]

theorem toNat_foldAsciiChar (c : Char) :
    (foldAsciiChar c).toNat =
      if 65 ≤ c.toNat ∧ c.toNat ≤ 90 then c.toNat + 32 else c.toNat := by
  have upper : ('A' ≤ c ∧ c ≤ 'Z') ↔ (65 ≤ c.toNat ∧ c.toNat ≤ 90) := by
    simp [Char.le_def, UInt32.le_iff_toNat_le]
  simp only [foldAsciiChar, upper]
  by_cases letter : 65 ≤ c.toNat ∧ c.toNat ≤ 90
  next =>
    have valid : (c.toNat + 32).isValidChar := .inl (by omega)
    rw [if_pos letter, if_pos letter, Char.ofNat, dif_pos valid]
    rfl
  next =>
    rw [if_neg letter, if_neg letter]

theorem eq_or_isAlpha_of_foldAsciiChar_eq {c d : Char} (h : foldAsciiChar c = foldAsciiChar d) :
    c = d ∨ c.isAlpha = true ∧ d.isAlpha = true := by
  have folded := congrArg Char.toNat h
  rw [toNat_foldAsciiChar, toNat_foldAsciiChar] at folded
  rw [isAlpha_iff, isAlpha_iff]
  by_cases same : c.toNat = d.toNat
  next => exact .inl (Char.toNat_inj.1 same)
  next =>
    refine .inr ?_
    split at folded <;> split at folded <;> omega

theorem map_foldAsciiChar_of_foldAscii_eq {s t : String} (h : foldAscii s = foldAscii t) :
    s.toList.map foldAsciiChar = t.toList.map foldAsciiChar := by
  simpa [foldAscii] using congrArg String.toList h

theorem mem_of_foldAscii_eq {s t : String} {c : Char} (h : foldAscii s = foldAscii t)
    (letterless : c.isAlpha = false) (mem : c ∈ s.toList) : c ∈ t.toList := by
  have folded : foldAsciiChar c ∈ t.toList.map foldAsciiChar := by
    rw [← map_foldAsciiChar_of_foldAscii_eq h]
    exact List.mem_map_of_mem mem
  obtain ⟨d, other, same⟩ := List.mem_map.1 folded
  obtain rfl | ⟨-, letter⟩ := eq_or_isAlpha_of_foldAsciiChar_eq same
  · exact other
  · simp [letterless] at letter

theorem eq_empty_of_foldAscii_eq {s : String} (h : foldAscii s = foldAscii "") : s = "" := by
  have none := map_foldAsciiChar_of_foldAscii_eq h
  simpa using none

theorem all_eq_of_map_foldAsciiChar_eq {p : Char → Bool} {cs ds : List Char}
    (respects : ∀ c d, foldAsciiChar c = foldAsciiChar d → p c = p d)
    (h : cs.map foldAsciiChar = ds.map foldAsciiChar) : cs.all p = ds.all p := by
  induction cs generalizing ds with
  | nil => simp [List.map_eq_nil_iff.1 h.symm]
  | cons c cs ih =>
    cases ds with
    | nil => cases h
    | cons d ds =>
      obtain ⟨first, rest⟩ := List.cons_eq_cons.1 h
      rw [List.all_cons, List.all_cons, respects c d first, ih rest]

theorem foldAsciiChar_eq_iff {sep : Char} (letterless : sep.isAlpha = false) (c : Char) :
    foldAsciiChar c = sep ↔ c = sep := by
  have fixed : foldAsciiChar sep = sep := by
    have code := toNat_foldAsciiChar sep
    have letter := (isAlpha_iff sep).not.1 (by simp [letterless])
    rw [if_neg (by omega)] at code
    exact Char.toNat_inj.1 code
  constructor
  · intro folded
    obtain same | ⟨-, letter⟩ := eq_or_isAlpha_of_foldAsciiChar_eq (folded.trans fixed.symm)
    · exact same
    · simp [letterless] at letter
  · rintro rfl
    exact fixed

theorem splitChars_map_foldAsciiChar {sep : Char} (letterless : sep.isAlpha = false)
    (cs : List Char) :
    splitChars sep (cs.map foldAsciiChar) = (splitChars sep cs).map (List.map foldAsciiChar) := by
  induction cs with
  | nil => rfl
  | cons c cs ih =>
    rw [List.map_cons]
    by_cases same : c = sep
    next =>
      simp only [splitChars, foldAsciiChar_eq_iff letterless, same, if_true, ih, List.map_cons,
        List.map_nil]
    next =>
      cases pieces : splitChars sep cs with
      | nil => exact absurd pieces (splitChars_ne_nil sep cs)
      | cons piece rest =>
        rw [pieces, List.map_cons] at ih
        simp only [splitChars, foldAsciiChar_eq_iff letterless, same, if_false, ih, pieces,
          List.map_cons]

theorem split_foldAscii {sep : Char} (letterless : sep.isAlpha = false) (s : String) :
    split sep (foldAscii s) = (split sep s).map foldAscii := by
  rw [split, split, foldAscii, String.toList_ofList, splitChars_map_foldAsciiChar letterless,
    List.map_map, List.map_map]
  refine List.map_congr_left fun piece _ => ?_
  simp only [Function.comp_apply, foldAscii, String.toList_ofList]

end EntityQuery.Text
