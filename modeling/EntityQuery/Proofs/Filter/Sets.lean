import EntityQuery.Proofs.Filter.Strings

set_option autoImplicit false

namespace EntityQuery

variable {ι : Type}

def CompareOp.equality (negated : Bool) : CompareOp :=
  if negated then .ne else .eq

namespace FilterOperator

def equality (negated : Bool) : FilterOperator :=
  if negated then .notEquals else .equals

def membership (negated : Bool) : FilterOperator :=
  if negated then .notOneOf else .oneOf

end FilterOperator

def FieldType.literal (type : FieldType ι) (text : String) : Value :=
  (type.readValue? text).getD type.defaultValue

namespace FilterCompiler

/-- The pieces are the tokens in order, with blanks around them, and pieces that are blank. -/
inductive Padded : List String → List String → Prop where
  | nil : Padded [] []
  | blank {ts pieces : List String} {piece : String}
    (blank : ∀ c ∈ piece.toList, Text.isBlank c = true) (rest : Padded ts pieces) :
    Padded ts (piece :: pieces)
  | token {ts pieces : List String} {front back : String} (t : String)
    (before : ∀ c ∈ front.toList, Text.isBlank c = true)
    (after : ∀ c ∈ back.toList, Text.isBlank c = true) (rest : Padded ts pieces) :
    Padded (t :: ts) ((front ++ t ++ back) :: pieces)

theorem comma_notMem_of_blank {cs : List Char} (blank : ∀ c ∈ cs, Text.isBlank c = true) :
    ',' ∉ cs :=
  fun mem => absurd (blank ',' mem) (by decide)

theorem tokens_of_blank {piece : String} (blank : ∀ c ∈ piece.toList, Text.isBlank c = true) :
    tokens piece = [] := by
  have padded := Text.trimChars_pad blank (List.forall_mem_nil _) []
  simp only [List.append_nil] at padded
  have nothing : Text.trim piece = "" := by
    rw [Text.trim, padded]
    rfl
  simp [tokens, Text.split_of_notMem (comma_notMem_of_blank blank), nothing]

theorem Listable.tokens_padded {t front back : String} (h : Listable t)
    (before : ∀ c ∈ front.toList, Text.isBlank c = true)
    (after : ∀ c ∈ back.toList, Text.isBlank c = true) :
    FilterCompiler.tokens (front ++ t ++ back) = [t] := by
  obtain ⟨nonempty, trimmed, whole⟩ := h
  have chars : (front ++ t ++ back).toList = front.toList ++ t.toList ++ back.toList := by simp
  have apart : ',' ∉ (front ++ t ++ back).toList := by
    simp [comma_notMem_of_blank before, comma_notMem_of_blank after, whole]
  have same : Text.trim (front ++ t ++ back) = t := by
    rw [Text.trim, chars, Text.trimChars_pad before after, ← Text.trim, trimmed]
  simp [FilterCompiler.tokens, Text.split_of_notMem apart, same, nonempty]

theorem tokens_join_of_padded {ts pieces : List String} (padded : Padded ts pieces)
    (listable : ∀ t ∈ ts, Listable t) : tokens (Text.join "," pieces) = ts := by
  rw [tokens_join]
  induction padded with
  | nil => rfl
  | blank blank _ ih => rw [List.flatMap_cons, tokens_of_blank blank, ih listable, List.nil_append]
  | token t before after _ ih =>
    obtain ⟨first, later⟩ := List.forall_mem_cons.1 listable
    rw [List.flatMap_cons, first.tokens_padded before after, ih later, List.singleton_append]

variable (c : FilterCompiler ι) {r : ResolvedField ι} {name text : String} {ts : List String}

theorem compileSet_congr {text' : String} (same : tokens text = tokens text') (negated : Bool) :
    c.compileSet r text negated = c.compileSet r text' negated := by
  rw [compileSet, compileSet, same]

theorem coerce?_object {f : FieldDescriptor ι} (object : f.type.isObject = true) (text : String) :
    c.coerce? f text = none := by
  rw [coerce?, if_pos object]

theorem coerce?_scalar (lenient : c.config.parseFailure = .defaultValue) {f : FieldDescriptor ι}
    (scalar : f.type.isObject = false) (text : String) :
    c.coerce? f text = some (f.type.literal text) := by
  rw [coerce?, FieldType.literal, scalar, lenient]
  cases f.type.readValue? text <;> rfl

section

variable {c} (lenient : c.config.parseFailure = .defaultValue) (get : String → Value)
include lenient

theorem evaluate_compileCompare (op : CompareOp) (text : String) :
    (c.compileCompare r op text).evaluate get =
      (!r.descriptor.type.isObject &&
        op.holds (get r.path) (r.descriptor.type.literal text)) := by
  rw [compileCompare]
  cases object : r.descriptor.type.isObject with
  | true => simp only [c.coerce?_object object, Expr.evaluate_const, Bool.not_true, Bool.false_and]
  | false =>
    simp only [c.coerce?_scalar lenient object, Expr.evaluate, Bool.not_false, Bool.true_and]

theorem evaluate_compileSet (some : tokens text ≠ [])
    (few : (tokens text).length ≤ c.config.maxSetValues.toNat) (negated : Bool) :
    (c.compileSet r text negated).evaluate get =
      (!r.descriptor.type.isObject &&
        ((tokens text).any (fun t => (get r.path).looselyEquals (r.descriptor.type.literal t)) !=
          negated)) := by
  have within : exceeds (tokens text).length c.config.maxSetValues = false :=
    exceeds_eq_false_iff.2 few
  rw [compileSet, within]
  cases object : r.descriptor.type.isObject with
  | true =>
    have read : c.coerce? r.descriptor = fun _ => none := funext (c.coerce?_object object)
    obtain ⟨t, ts, tokens⟩ := List.exists_cons_of_ne_nil some
    simp [read, tokens]
  | false =>
    have read : c.coerce? r.descriptor = fun t => pure (r.descriptor.type.literal t) :=
      funext (c.coerce?_scalar lenient object)
    rw [read, List.mapM_pure]
    simp [List.any_map, Function.comp_def]

end

theorem compileSet_eq_iff (lenient : c.config.parseFailure = .defaultValue)
    (get : String → Value) (some : tokens text ≠ [])
    (few : (tokens text).length ≤ c.config.maxSetValues.toNat) (negated : Bool) :
    (c.compileSet r text negated).evaluate get = negated ↔
      ∀ t ∈ tokens text, (c.compileCompare r (.equality negated) t).evaluate get = negated := by
  simp only [evaluate_compileSet lenient get some few, evaluate_compileCompare lenient]
  cases r.descriptor.type.isObject with
  | true =>
    obtain ⟨t, mem⟩ := List.exists_mem_of_ne_nil _ some
    simp only [Bool.not_true, Bool.false_and]
    exact ⟨fun same _ _ => same, fun each => each t mem⟩
  | false => cases negated <;> simp [CompareOp.equality, CompareOp.holds]

theorem compileItem_of_unknown (op : FilterOperator) (unknown : c.resolveField? name = none)
    (text : String) : c.compileItem (.of name op text) = .ok (.const false) := by
  have named : FilterOperator.resolve? (FilterItem.of name op text).operator = some op :=
    op.resolve?_name
  have field : (FilterItem.of name op text).field = name := rfl
  rw [c.compileItem_of_resolve named, compileResolved, field, unknown]

theorem membership_eq_iff (lenient : c.config.parseFailure = .defaultValue) (name : String)
    (some : ts ≠ []) (listable : ∀ t ∈ ts, Listable t)
    (few : ts.length ≤ c.config.maxSetValues.toNat)
    (short : Text.byteLength (Text.join "," ts) ≤ c.config.maxValueLength.toNat)
    (negated : Bool) :
    ∃ e, c.compileItem (.of name (.membership negated) (Text.join "," ts)) = .ok e ∧
      ∃ each : String → Expr,
        (∀ t ∈ ts, c.compileItem (.of name (.equality negated) t) = .ok (each t)) ∧
        ∀ get, e.evaluate get = negated ↔ ∀ t ∈ ts, (each t).evaluate get = negated := by
  cases resolved : c.resolveField? name with
  | none =>
    refine ⟨_, c.compileItem_of_unknown _ resolved _, fun _ => .const false,
      fun t _ => c.compileItem_of_unknown _ resolved t, fun get => ?_⟩
    obtain ⟨t, mem⟩ := List.exists_mem_of_ne_nil _ some
    exact ⟨fun same _ _ => same, fun all => all t mem⟩
  | some r =>
    have tokens : tokens (Text.join "," ts) = ts := by rw [tokens_join, flatMap_tokens listable]
    have set := c.compileItem_of (.membership negated) resolved short
    have one : ∀ t ∈ ts, c.compileItem (.of name (.equality negated) t) =
        .ok (c.compileField r (.equality negated) t) :=
      fun t mem => c.compileItem_of _ resolved ((Text.byteLength_le_join "," mem).trans short)
    refine ⟨_, set, _, one, fun get => ?_⟩
    have all := c.compileSet_eq_iff (r := r) lenient get (tokens.symm ▸ some)
      (tokens.symm ▸ few) negated
    rw [tokens] at all
    cases negated <;> exact all

theorem itemHolds_of_compileItem {item : FilterItem} {e : Expr} (compiled : c.compileItem item = .ok e)
    (get : String → Value) : c.ItemHolds get item ↔ e.evaluate get = true := by
  simp [ItemHolds, compiled]

theorem compileItem_membership_congr {text' : String} (same : tokens text = tokens text')
    (short : Text.byteLength text ≤ c.config.maxValueLength.toNat)
    (short' : Text.byteLength text' ≤ c.config.maxValueLength.toNat) (negated : Bool) :
    c.compileItem (.of name (.membership negated) text) =
      c.compileItem (.of name (.membership negated) text') := by
  cases resolved : c.resolveField? name with
  | none => rw [c.compileItem_of_unknown _ resolved, c.compileItem_of_unknown _ resolved]
  | some r =>
    have set := c.compileSet_congr (r := r) same negated
    rw [c.compileItem_of _ resolved short, c.compileItem_of _ resolved short']
    cases negated <;> exact congrArg Except.ok set

/--
Where unreadable text stands for a default, one of a set is one of its tokens, and none of a set is
none of its tokens. Blanks around the tokens, and blank pieces among them, make no difference.
-/
theorem set_items_by_token (lenient : c.config.parseFailure = .defaultValue) (name : String)
    {ts : List String} (some : ts ≠ []) (listable : ∀ t ∈ ts, Listable t)
    (few : ts.length ≤ c.config.maxSetValues.toNat)
    (short : Text.byteLength (Text.join "," ts) ≤ c.config.maxValueLength.toNat) :
    (∃ e, c.compileItem (.of name .oneOf (Text.join "," ts)) = .ok e ∧
      ∀ get, e.evaluate get = true ↔ ∃ t ∈ ts, c.ItemHolds get (.of name .equals t)) ∧
    (∃ e, c.compileItem (.of name .notOneOf (Text.join "," ts)) = .ok e ∧
      ∀ get, e.evaluate get = true ↔ ∀ t ∈ ts, c.ItemHolds get (.of name .notEquals t)) ∧
    ∀ pieces, Padded ts pieces →
      Text.byteLength (Text.join "," pieces) ≤ c.config.maxValueLength.toNat →
        ∀ op, op = .oneOf ∨ op = .notOneOf →
          c.compileItem (.of name op (Text.join "," pieces)) =
            c.compileItem (.of name op (Text.join "," ts)) := by
  refine ⟨?_, ?_, ?_⟩
  · obtain ⟨e, compiled, each, one, exact⟩ :=
      c.membership_eq_iff lenient name some listable few short false
    refine ⟨e, compiled, fun get => ?_⟩
    rw [← Bool.not_eq_false, exact get]
    push Not
    simp only [ne_eq, Bool.not_eq_false]
    exact exists_congr fun t => and_congr_right fun mem =>
      (c.itemHolds_of_compileItem (one t mem) get).symm
  · obtain ⟨e, compiled, each, one, exact⟩ :=
      c.membership_eq_iff lenient name some listable few short true
    refine ⟨e, compiled, fun get => (exact get).trans ?_⟩
    exact forall₂_congr fun t mem => (c.itemHolds_of_compileItem (one t mem) get).symm
  · rintro pieces padded within op set
    have tokens : tokens (Text.join "," pieces) = tokens (Text.join "," ts) := by
      rw [tokens_join_of_padded padded listable, tokens_join, flatMap_tokens listable]
    rcases set with rfl | rfl
    · exact c.compileItem_membership_congr tokens within short false
    · exact c.compileItem_membership_congr tokens within short true

-- A token that is no number stands for zero, and a repeated one changes nothing.
theorem ratings_by_token :
    (∃ e, productFilters.compileItem (.of "RATING" .oneOf "4.8,none,NaN,4.8") = .ok e ∧
      ∀ get, e.evaluate get = true ↔ ∃ t ∈ ["4.8", "none", "NaN", "4.8"],
        productFilters.ItemHolds get (.of "RATING" .equals t)) ∧
    (∃ e, productFilters.compileItem (.of "RATING" .notOneOf "4.8,none,NaN,4.8") = .ok e ∧
      ∀ get, e.evaluate get = true ↔ ∀ t ∈ ["4.8", "none", "NaN", "4.8"],
        productFilters.ItemHolds get (.of "RATING" .notEquals t)) ∧
    productFilters.compileItem (.of "RATING" .notOneOf ",\t4.8 , none,NaN,\u00a0,4.8") =
      productFilters.compileItem (.of "RATING" .notOneOf "4.8,none,NaN,4.8") := by
  have listable : ∀ t ∈ ["4.8", "none", "NaN", "4.8"], Listable t := by
    simp only [Listable]
    decide +kernel
  obtain ⟨one, none, same⟩ := productFilters.set_items_by_token rfl "RATING"
    (List.cons_ne_nil _ _) listable (by decide +kernel) (by decide +kernel)
  have padded : Padded ["4.8", "none", "NaN", "4.8"]
      ["", "\t" ++ "4.8" ++ " ", " " ++ "none" ++ "", "" ++ "NaN" ++ "", "\u00a0", "" ++ "4.8" ++ ""] := by
    refine .blank ?_ (.token _ ?_ ?_ (.token _ ?_ ?_ (.token _ ?_ ?_
      (.blank ?_ (.token _ ?_ ?_ .nil)))))
    all_goals exact List.all_eq_true.1 (by decide +kernel)
  have joined : Text.join "," ["4.8", "none", "NaN", "4.8"] = "4.8,none,NaN,4.8" := by
    decide +kernel
  rw [joined] at one none same
  refine ⟨one, none, ?_⟩
  have spread := same _ padded (by decide +kernel) .notOneOf (.inr rfl)
  have text : Text.join "," ["", "\t" ++ "4.8" ++ " ", " " ++ "none" ++ "", "" ++ "NaN" ++ "",
      "\u00a0", "" ++ "4.8" ++ ""] = ",\t4.8 , none,NaN,\u00a0,4.8" := by
    decide +kernel
  rwa [text] at spread

end FilterCompiler

end EntityQuery
