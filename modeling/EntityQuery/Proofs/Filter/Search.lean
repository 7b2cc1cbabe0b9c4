import EntityQuery.Plan.Compile
import EntityQuery.Proofs.Filter.Whitelist
import EntityQuery.Proofs.Text.Lowercase

set_option autoImplicit false

namespace EntityQuery

open Text

namespace TextOp

theorem contains_holds_iff {s piece : String} :
    contains.holds s piece = true ↔ lowerChars piece.toList <:+: lowerChars s.toList := by
  rw [← toList_lower, ← toList_lower, ← containsChars_iff]
  rfl

theorem startsWith_holds_iff {s piece : String} :
    startsWith.holds s piece = true ↔ lowerChars piece.toList <+: lowerChars s.toList := by
  rw [← toList_lower, ← toList_lower, ← List.isPrefixOf_iff_prefix]
  rfl

theorem endsWith_holds_iff {s piece : String} :
    endsWith.holds s piece = true ↔ lowerChars piece.toList <:+ lowerChars s.toList := by
  rw [← toList_lower, ← toList_lower, ← List.isSuffixOf_iff_suffix]
  rfl

theorem contains_trim {before term after : String}
    (keeps : KeepsSigmas before.toList term.toList after.toList) :
    contains.holds (before ++ term ++ after) (Text.trim term) = true := by
  obtain ⟨front, back, blankFront, blankBack, split⟩ := trimChars_split term.toList
  rw [split] at keeps
  have found := (keeps.trim blankFront blankBack).lower_found
  have whole : (before ++ term ++ after).toList =
      before.toList ++ front ++ trimChars term.toList ++ (back ++ after.toList) := by
    rw [String.toList_append, String.toList_append]
    nth_rewrite 1 [split]
    simp only [List.append_assoc]
  rwa [contains_holds_iff, whole, toList_trim]

end TextOp

namespace Expr

variable {get : String → Value} {f s : String}

theorem evaluate_text (h : get f = .string s) (op : TextOp) (piece : String) :
    (text f op piece).evaluate get = op.holds s piece := by
  simp only [evaluate, h]

theorem evaluate_search {fields : List String} (mem : f ∈ fields) (h : get f = .string s)
    {term : String} (found : TextOp.contains.holds s term = true) :
    (any (fields.map fun f => text f .contains term)).evaluate get = true := by
  rw [evaluate_any, List.any_map, List.any_eq_true]
  exact ⟨f, mem, (evaluate_text h .contains term).trans found⟩

end Expr

namespace FilterCompiler

variable {ι : Type} (c : FilterCompiler ι) {term : String}

theorem compileSearch_within
    (short : byteLength (trim term) ≤ c.config.maxValueLength.toNat) :
    c.compileSearch term =
      if isBlankText term || c.schema.stringFields.isEmpty then .const true
      else .any (c.schema.stringFields.map fun f => .text f .contains (trim term)) := by
  have within : exceeds (byteLength (trim term)) c.config.maxValueLength = false :=
    exceeds_eq_false_iff.2 short
  rw [compileSearch, within, isBlankText_trim]
  cases isBlankText term with
  | true => rfl
  | false => cases c.schema.stringFields <;> rfl

theorem compileSearch_finds {get : String → Value} {f s : String} (mem : f ∈ c.schema.stringFields)
    (h : get f = .string s) (found : TextOp.contains.holds s (trim term) = true)
    (short : byteLength (trim term) ≤ c.config.maxValueLength.toNat) :
    (c.compileSearch term).evaluate get = true := by
  rw [c.compileSearch_within short]
  split
  next => exact Expr.evaluate_const get true
  next => exact Expr.evaluate_search mem h found

end FilterCompiler

theorem SearchClause.toExpr_finds (search : SearchClause) {get : String → Value} {f s : String}
    (mem : f ∈ search.fields) (h : get f = .string s)
    (found : TextOp.contains.holds s (trim search.term) = true) :
    search.toExpr.evaluate get = true := by
  rw [toExpr]
  split
  next => exact Expr.evaluate_const get true
  next => exact Expr.evaluate_search mem h found

/--
A piece of a stored text is found by containment, and by every search, where each of its capital
sigmas ends a word by itself exactly if it does in the text. At the start and at the end of the text
it is found only then.
-/
theorem text_finds_pieces (get : String → Value) (f before piece after : String)
    (stored : get f = .string (before ++ piece ++ after)) :
    (KeepsSigmas before.toList piece.toList after.toList →
      (Expr.text f .contains piece).evaluate get = true ∧
      (∀ {ι : Type} (c : FilterCompiler ι), f ∈ c.schema.stringFields →
        byteLength (trim piece) ≤ c.config.maxValueLength.toNat →
        (c.compileSearch piece).evaluate get = true) ∧
      ∀ fields : List String, f ∈ fields →
        (SearchClause.mk piece fields).toExpr.evaluate get = true) ∧
    (before = "" →
      ((Expr.text f .startsWith piece).evaluate get = true ↔
        KeepsSigmas before.toList piece.toList after.toList)) ∧
    (after = "" →
      ((Expr.text f .endsWith piece).evaluate get = true ↔
        KeepsSigmas before.toList piece.toList after.toList)) := by
  rw [Expr.evaluate_text stored, Expr.evaluate_text stored, Expr.evaluate_text stored]
  refine ⟨fun keeps => ⟨?_, fun c mem short => ?_, fun fields mem => ?_⟩, ?_, ?_⟩
  · rw [TextOp.contains_holds_iff, String.toList_append, String.toList_append]
    exact keeps.lower_found
  · exact c.compileSearch_finds mem stored (TextOp.contains_trim keeps) short
  · exact SearchClause.toExpr_finds ⟨piece, fields⟩ mem stored (TextOp.contains_trim keeps)
  · rintro rfl
    rw [TextOp.startsWith_holds_iff, String.empty_append, String.toList_append]
    exact lower_prefix_iff
  · rintro rfl
    rw [TextOp.endsWith_holds_iff, String.append_empty, String.toList_append]
    exact lower_suffix_iff

theorem whole_word_is_found :
    (Expr.text "Name" .contains "ΟΔΟΣ").evaluate (fun _ => .string "ΟΔΟΣ İZ") = true ∧
      (Expr.text "Name" .startsWith "ΟΔΟΣ").evaluate (fun _ => .string "ΟΔΟΣ İZ") = true ∧
      (Expr.text "Name" .endsWith "İZ").evaluate (fun _ => .string "ΟΔΟΣ İZ") = true ∧
      (FilterCompiler.productFilters.compileSearch "ΟΔΟΣ ").evaluate
        (fun _ => .string "ΟΔΟΣ İZ") = true ∧
      (SearchClause.mk "İZ" ["Name"]).toExpr.evaluate (fun _ => .string "ΟΔΟΣ İZ") = true := by
  let get : String → Value := fun _ => .string "ΟΔΟΣ İZ"
  obtain ⟨word, starts, -⟩ :=
    text_finds_pieces get "Name" "" "ΟΔΟΣ" " İZ" (by decide +kernel)
  obtain ⟨spaced, -⟩ := text_finds_pieces get "Name" "" "ΟΔΟΣ " "İZ" (by decide +kernel)
  obtain ⟨rest, -, ends⟩ := text_finds_pieces get "Name" "ΟΔΟΣ " "İZ" "" (by decide +kernel)
  have wordKept : KeepsSigmas "".toList "ΟΔΟΣ".toList " İZ".toList :=
    keepsSigmas_iff.2 (by decide +kernel)
  have spacedKept : KeepsSigmas "".toList "ΟΔΟΣ ".toList "İZ".toList :=
    keepsSigmas_iff.2 (by decide +kernel)
  have restKept : KeepsSigmas "ΟΔΟΣ ".toList "İZ".toList "".toList :=
    KeepsSigmas.of_notMem (by decide +kernel)
  exact ⟨(word wordKept).1, (starts rfl).2 wordKept, (ends rfl).2 restKept,
    (spaced spacedKept).2.1 _ (by decide +kernel) (by decide +kernel),
    (rest restKept).2.2 ["Name"] (by decide +kernel)⟩

-- Cut off, a sigma from within a word ends one, and one from the end of a word follows no letter.
theorem cut_sigma_is_not_found :
    (Expr.text "Name" .contains "ΑΣ").evaluate (fun _ => .string "ΑΣΑ") = false ∧
      (Expr.text "Name" .startsWith "ΑΣ").evaluate (fun _ => .string "ΑΣΑ") = false ∧
      (Expr.text "Name" .endsWith "Σ").evaluate (fun _ => .string "ΑΣ") = false := by
  simp only [Expr.evaluate]
  decide +kernel

end EntityQuery
