import EntityQuery.Proofs.Text.Basic
import EntityQuery.Text.Lowercase

set_option autoImplicit false

namespace EntityQuery.Text

def endsWord (before rest : List Char) : Bool :=
  meetsCased before && !meetsCased rest

def lowerAt (before : List Char) (c : Char) (rest : List Char) : List Char :=
  if c = 'Σ' then [if endsWord before rest then 'ς' else 'σ'] else lowerChar c

def lowerWithin (before after : List Char) : List Char → List Char
  | [] => []
  | c :: rest => lowerAt before c (rest ++ after) ++ lowerWithin (c :: before) after rest

section

variable (before after : List Char)

theorem lowerFrom_eq (cs : List Char) : lowerFrom before cs = lowerWithin before [] cs := by
  induction cs generalizing before with
  | nil => rfl
  | cons c rest ih =>
    rw [lowerFrom, lowerWithin, ih, List.append_nil]
    rfl

theorem lowerWithin_append (cs ds : List Char) :
    lowerWithin before after (cs ++ ds) =
      lowerWithin before (ds ++ after) cs ++ lowerWithin (cs.reverse ++ before) after ds := by
  induction cs generalizing before with
  | nil => rfl
  | cons c rest ih =>
    simp only [List.cons_append, lowerWithin, ih, List.append_assoc, List.reverse_cons,
      List.nil_append]

end

variable {before after before' after' : List Char}

theorem length_lowerAt (c : Char) :
    (lowerAt before c after).length = (lowerAt before' c after').length := by
  by_cases sigma : c = 'Σ' <;> simp [lowerAt, sigma]

theorem length_lowerWithin (cs : List Char) :
    (lowerWithin before after cs).length = (lowerWithin before' after' cs).length := by
  induction cs generalizing before before' with
  | nil => rfl
  | cons c rest ih =>
    rw [lowerWithin, lowerWithin, List.length_append, List.length_append, ih, length_lowerAt]

theorem lowerAt_eq_iff (c : Char) :
    lowerAt before c after = lowerAt before' c after' ↔
      (c = 'Σ' → endsWord before after = endsWord before' after') := by
  by_cases sigma : c = 'Σ'
  next =>
    simp only [lowerAt, sigma, if_true, true_implies]
    cases endsWord before after <;> cases endsWord before' after' <;> decide
  next => simp only [lowerAt, sigma, if_false, false_implies]

theorem forall_split_cons {c d : Char} {cs : List Char} {p : List Char → List Char → Prop} :
    (∀ xs ys, d :: cs = xs ++ c :: ys → p xs ys) ↔
      (d = c → p [] cs) ∧ ∀ xs ys, cs = xs ++ c :: ys → p (d :: xs) ys := by
  constructor
  · intro h
    refine ⟨fun same => h [] cs (by rw [same, List.nil_append]), fun xs ys split => ?_⟩
    exact h (d :: xs) ys (by rw [split, List.cons_append])
  · rintro ⟨first, later⟩ xs ys split
    cases xs with
    | nil =>
      obtain ⟨same, rfl⟩ := List.cons.inj split
      exact first same
    | cons x xs =>
      obtain ⟨rfl, rest⟩ := List.cons.inj split
      exact later xs ys rest

theorem lowerWithin_eq_iff (cs : List Char) :
    lowerWithin before after cs = lowerWithin before' after' cs ↔
      ∀ xs ys, cs = xs ++ 'Σ' :: ys →
        endsWord (xs.reverse ++ before) (ys ++ after) =
          endsWord (xs.reverse ++ before') (ys ++ after') := by
  induction cs generalizing before before' with
  | nil => simp [lowerWithin]
  | cons c rest ih =>
    -- The forms of a character are equally long, so the two texts agree one character at a time.
    rw [forall_split_cons, lowerWithin, lowerWithin]
    simp only [List.reverse_nil, List.nil_append, List.reverse_cons, List.append_assoc,
      List.cons_append, ← lowerAt_eq_iff, ← ih]
    exact ⟨fun same => List.append_inj same (length_lowerAt c), fun ⟨head, tail⟩ => by
      rw [head, tail]⟩

/-- Each capital sigma of the piece ends a word by itself exactly if it does in its place. -/
def KeepsSigmas (before piece after : List Char) : Prop :=
  ∀ xs ys, piece = xs ++ 'Σ' :: ys →
    endsWord (xs.reverse ++ before.reverse) (ys ++ after) = endsWord xs.reverse ys

variable {piece : List Char}

theorem keepsSigmas_iff :
    KeepsSigmas before piece after ↔
      lowerWithin before.reverse after piece = lowerWithin [] [] piece := by
  simp only [lowerWithin_eq_iff, KeepsSigmas, List.append_nil]

theorem KeepsSigmas.of_notMem (h : 'Σ' ∉ piece) : KeepsSigmas before piece after := by
  rintro xs ys rfl
  exact absurd (List.mem_append_right xs List.mem_cons_self) h

theorem toList_lower (s : String) : (lower s).toList = lowerChars s.toList :=
  String.toList_ofList

theorem lowerChars_eq (cs : List Char) : lowerChars cs = lowerWithin [] [] cs :=
  lowerFrom_eq [] cs

theorem KeepsSigmas.lower_found (h : KeepsSigmas before piece after) :
    lowerChars piece <:+: lowerChars (before ++ piece ++ after) := by
  rw [lowerChars_eq, lowerChars_eq, lowerWithin_append, lowerWithin_append, ← keepsSigmas_iff.1 h]
  simp only [List.append_nil]
  exact List.infix_append _ _ _

-- At its own place the piece is found only so: what stands there is as long as its lower case.
theorem lower_prefix_iff :
    lowerChars piece <+: lowerChars (piece ++ after) ↔ KeepsSigmas [] piece after := by
  rw [lowerChars_eq, lowerChars_eq, lowerWithin_append, List.append_nil, keepsSigmas_iff,
    List.reverse_nil]
  constructor
  · rintro ⟨rest, split⟩
    exact (List.append_inj split (length_lowerWithin piece)).1.symm
  · intro same
    exact ⟨_, congrArg (· ++ _) same.symm⟩

theorem lower_suffix_iff :
    lowerChars piece <:+ lowerChars (before ++ piece) ↔ KeepsSigmas before piece [] := by
  rw [lowerChars_eq, lowerChars_eq, lowerWithin_append, List.append_nil, List.append_nil,
    keepsSigmas_iff]
  constructor
  · rintro ⟨rest, split⟩
    exact (List.append_inj' split (length_lowerWithin piece)).2.symm
  · intro same
    exact ⟨_, congrArg (_ ++ ·) same.symm⟩

theorem blank_is_no_letter {c : Char} (h : isBlank c = true) :
    isCaseIgnorable c = false ∧ isCased c = false := by
  have codes : ∀ n ∈ List.range' 0x9 5 ++ List.range' 0x2000 11 ++
      [0x20, 0x85, 0xA0, 0x1680, 0x2028, 0x2029, 0x202F, 0x205F, 0x3000],
      inRanges caseIgnorableRanges n = false ∧ inRanges casedRanges n = false := by
    decide +kernel
  refine codes c.toNat ?_
  simp only [isBlank, Bool.or_eq_true, Bool.and_eq_true, decide_eq_true_eq, beq_iff_eq] at h
  simp only [List.mem_append, List.mem_range'_1, List.mem_cons, List.not_mem_nil]
  omega

theorem meetsCased_cons (c : Char) (cs : List Char) :
    meetsCased (c :: cs) = if isCaseIgnorable c then meetsCased cs else isCased c := by
  rw [meetsCased, List.dropWhile_cons]
  cases isCaseIgnorable c <;> rfl

theorem meetsCased_append_blanks {blanks : List Char} (h : ∀ c ∈ blanks, isBlank c = true)
    (cs : List Char) : meetsCased (cs ++ blanks) = meetsCased cs := by
  induction cs with
  | nil =>
    cases blanks with
    | nil => rfl
    | cons c blanks =>
      obtain ⟨seen, uncased⟩ := blank_is_no_letter (h c List.mem_cons_self)
      rw [List.nil_append, meetsCased_cons, seen, uncased]
      rfl
  | cons c cs ih => rw [List.cons_append, meetsCased_cons, meetsCased_cons, ih]

theorem endsWord_append_blanks {front back : List Char} (blankFront : ∀ c ∈ front, isBlank c = true)
    (blankBack : ∀ c ∈ back, isBlank c = true) (cs rest : List Char) :
    endsWord (cs ++ front.reverse) (rest ++ back) = endsWord cs rest := by
  have reversed : ∀ c ∈ front.reverse, isBlank c = true := fun c mem =>
    blankFront c (List.mem_reverse.1 mem)
  rw [endsWord, meetsCased_append_blanks reversed, meetsCased_append_blanks blankBack, endsWord]

theorem KeepsSigmas.trim {front back : List Char} (blankFront : ∀ c ∈ front, isBlank c = true)
    (blankBack : ∀ c ∈ back, isBlank c = true)
    (h : KeepsSigmas before (front ++ piece ++ back) after) :
    KeepsSigmas (before ++ front) piece (back ++ after) := by
  rintro xs ys rfl
  have wide := h (front ++ xs) (ys ++ back) (by simp)
  rw [List.reverse_append, endsWord_append_blanks blankFront blankBack] at wide
  simpa only [List.reverse_append, List.append_assoc] using wide

end EntityQuery.Text
