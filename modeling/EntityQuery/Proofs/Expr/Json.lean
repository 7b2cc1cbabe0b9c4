import EntityQuery.Expr.Json
import EntityQuery.Proofs.Value.Json

set_option autoImplicit false

namespace EntityQuery

open Json

theorem CompareOp.asInnerName?_name (op : CompareOp) :
    asInnerName? names (string op.name) = some op := by
  cases op <;> rfl

theorem TextOp.asInnerName?_name (op : TextOp) :
    asInnerName? names (string op.name) = some op := by
  cases op <;> rfl

theorem Value.ofInnerJson?_toJson {v : Value} (legible : v.Legible) :
    Value.ofInnerJson? v.toJson = if v.isFinite then some v else none := by
  rw [ofInnerJson?, ofTagged?_toJson _ legible]
  exact fun _ => rfl

namespace Expr

mutual

def literals : Expr → List Value
  | const _ => []
  | compare _ _ v => [v]
  | text _ _ _ => []
  | null _ _ => []
  | empty _ _ => []
  | oneOf _ vs _ => vs
  | and es => literalsOfAll es
  | or es => literalsOfAll es
  | not e => e.literals

def literalsOfAll : List Expr → List Value
  | [] => []
  | e :: es => e.literals ++ literalsOfAll es

end

def isFinite (e : Expr) : Bool :=
  e.literals.all Value.isFinite

theorem literalsOfAll_eq_flatMap (es : List Expr) : literalsOfAll es = es.flatMap literals := by
  induction es with
  | nil => simp [literalsOfAll]
  | cons e es ih => simp [literalsOfAll, ih]

theorem literalsOfAll_isFinite (es : List Expr) :
    (literalsOfAll es).all Value.isFinite = es.all isFinite := by
  rw [literalsOfAll_eq_flatMap, List.all_flatMap]
  rfl

theorem toJsonAll_eq_map (es : List Expr) : toJsonAll es = es.map toJson := by
  induction es with
  | nil => simp [toJsonAll]
  | cons e es ih => simp [toJsonAll, ih]

def Reads (kind? : Json → Option String) (e : Expr) : Prop :=
  ∀ levels, e.toJson.depth ≤ levels →
    ofJsonWithin? kind? levels e.toJson = if e.isFinite then some e else none

theorem reads_of_levels {kind? : Json → Option String} {e : Expr}
    (h : ∀ levels, e.toJson.depth ≤ levels + 1 →
      ofJsonWithin? kind? (levels + 1) e.toJson = if e.isFinite then some e else none) :
    Reads kind? e := by
  intro levels enough
  cases levels with
  | zero => exact absurd enough (Nat.not_le.2 e.toJson.depth_pos)
  | succ levels => exact h levels enough

theorem reads_operands {kind? : Json → Option String} {kind : String}
    {combine : List Expr → Expr} {es : List Expr}
    (written : (combine es).toJson = node kind [("operands", array (toJsonAll es))])
    (finite : (combine es).isFinite = es.all isFinite)
    (read : ∀ levels, ofJsonWithin? kind? (levels + 1)
      (node kind [("operands", array (toJsonAll es))]) =
        (asList? (ofJsonWithin? innerKind? levels) (array (toJsonAll es))).bind fun es =>
          some (combine es))
    (h : ∀ e ∈ es, Reads innerKind? e) : Reads kind? (combine es) :=
  reads_of_levels fun levels enough => by
    have operands : asList? (ofJsonWithin? innerKind? levels) (array (es.map toJson)) =
        if es.all isFinite then some es else none := by
      simp only [written, node, toJsonAll_eq_map, depth, depthOfMembers] at enough
      refine asList?_ofList_if fun e mem => h e mem levels ?_
      have below := depth_le_of_mem (List.mem_map_of_mem (f := toJson) mem)
      omega
    rw [written, read, toJsonAll_eq_map, operands, finite]
    cases es.all isFinite <;> rfl

section

-- The topmost node and the nodes inside read their kinds differently, but both take the names.
variable {kind? : Json → Option String} (named : ∀ s, kind? (string s) = some s)

include named

theorem reads_const (b : Bool) : Reads kind? (const b) :=
  reads_of_levels fun levels _ => by
    simp [toJson, node, ofJsonWithin?, named, isFinite, literals]

theorem reads_text (f : String) (op : TextOp) (v : String) : Reads kind? (text f op v) :=
  reads_of_levels fun levels _ => by
    simp [toJson, node, ofJsonWithin?, named, TextOp.asInnerName?_name, isFinite, literals]

theorem reads_null (f : String) (negated : Bool) : Reads kind? (null f negated) :=
  reads_of_levels fun levels _ => by
    simp [toJson, node, ofJsonWithin?, named, isFinite, literals]

theorem reads_empty (f : String) (negated : Bool) : Reads kind? (empty f negated) :=
  reads_of_levels fun levels _ => by
    simp [toJson, node, ofJsonWithin?, named, isFinite, literals]

theorem reads_compare (f : String) (op : CompareOp) {v : Value} (legible : v.Legible) :
    Reads kind? (compare f op v) :=
  reads_of_levels fun levels _ => by
    have value : (compare f op v).isFinite = v.isFinite := by simp [isFinite, literals]
    cases finite : v.isFinite <;>
      simp [toJson, node, ofJsonWithin?, named, CompareOp.asInnerName?_name,
        Value.ofInnerJson?_toJson legible, value, finite]

theorem reads_oneOf (f : String) {vs : List Value} (legible : ∀ v ∈ vs, v.Legible)
    (negated : Bool) : Reads kind? (oneOf f vs negated) :=
  reads_of_levels fun levels _ => by
    have values : (oneOf f vs negated).isFinite = vs.all Value.isFinite := rfl
    have read := asList?_ofList_if fun v mem => Value.ofInnerJson?_toJson (legible v mem)
    cases finite : vs.all Value.isFinite <;>
      simp [toJson, node, ofJsonWithin?, named, read, values, finite]

theorem reads_and {es : List Expr} (h : ∀ e ∈ es, Reads innerKind? e) : Reads kind? (and es) :=
  reads_operands rfl (literalsOfAll_isFinite es) (fun levels => by
    simp [node, ofJsonWithin?, named]) h

theorem reads_or {es : List Expr} (h : ∀ e ∈ es, Reads innerKind? e) : Reads kind? (or es) :=
  reads_operands rfl (literalsOfAll_isFinite es) (fun levels => by
    simp [node, ofJsonWithin?, named]) h

theorem reads_not {e : Expr} (h : Reads innerKind? e) : Reads kind? (not e) :=
  reads_of_levels fun levels enough => by
    have inner : (not e).isFinite = e.isFinite := rfl
    simp only [toJson, node, depth, depthOfMembers] at enough
    have read := h levels (by omega)
    cases finite : e.isFinite <;>
      simp [toJson, node, ofJsonWithin?, named, read, inner, finite]

end

theorem innerKind?_string (s : String) : innerKind? (string s) = some s :=
  rfl

mutual

theorem reads : (e : Expr) → (legible : ∀ v ∈ e.literals, v.Legible) →
    {kind? : Json → Option String} → (named : ∀ s, kind? (string s) = some s) → Reads kind? e
  | const b, _, _, named => reads_const named b
  | compare f op v, legible, _, named =>
    reads_compare named f op (legible v (List.mem_singleton_self v))
  | text f op v, _, _, named => reads_text named f op v
  | null f negated, _, _, named => reads_null named f negated
  | empty f negated, _, _, named => reads_empty named f negated
  | oneOf f _ negated, legible, _, named => reads_oneOf named f legible negated
  | and es, legible, _, named => reads_and named (readsAll es legible)
  | or es, legible, _, named => reads_or named (readsAll es legible)
  | not e, legible, _, named => reads_not named (reads e legible innerKind?_string)

theorem readsAll : (es : List Expr) → (legible : ∀ v ∈ literalsOfAll es, v.Legible) →
    ∀ e ∈ es, Reads innerKind? e
  | [], _ => by simp
  | e :: es, legible =>
    List.forall_mem_cons.2
      ⟨reads e (fun v mem => legible v (List.mem_append_left _ mem)) innerKind?_string,
        readsAll es fun v mem => legible v (List.mem_append_right _ mem)⟩

end

theorem ofJson?_toJson {e : Expr} (legible : ∀ v ∈ e.literals, v.Legible) :
    ofJson? e.toJson = if e.isFinite then some e else none :=
  reads e legible asString?_string e.toJson.depth (Nat.le_refl _)

end Expr

end EntityQuery
