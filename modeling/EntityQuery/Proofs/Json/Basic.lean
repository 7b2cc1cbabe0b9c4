import EntityQuery.Json.Basic
import EntityQuery.Proofs.Text.Numeral

set_option autoImplicit false

namespace EntityQuery.Json

theorem lookup_of_mem {name : String} {j : Json} {members : List (String × Json)}
    (distinct : (members.map Prod.fst).Nodup) (h : (name, j) ∈ members) :
    lookup name members = some j := by
  induction members with
  | nil => cases h
  | cons member members ih =>
    rw [List.map_cons, List.nodup_cons] at distinct
    rcases List.mem_cons.1 h with rfl | later
    · exact if_pos rfl
    · have other : member.1 ≠ name := fun same =>
        distinct.1 (same ▸ List.mem_map_of_mem later)
      exact (if_neg other).trans (ih distinct.2 later)

theorem fields?_members {members : List (String × Json)}
    (distinct : (members.map Prod.fst).Nodup) :
    fields? (members.map Prod.fst) (object members) =
      some (members.map fun member => some member.2) := by
  rw [fields?, List.map_map]
  exact congrArg some (List.map_congr_left fun _ mem => lookup_of_mem distinct mem)

theorem asInt64?_toInt (n : Int64) : asInt64? (integer n.toInt) = some n :=
  int64?_toInt n

theorem asCount?_ofCount (n : Count) : asCount? (ofCount n) = some n := by
  have bound : n.toNat ≤ Count.limit := Nat.le_of_lt_succ n.toNat_lt
  rw [ofCount, asCount?, if_pos (Int.natCast_nonneg _), Int.toNat_natCast, Count.ofNat?,
    if_pos bound, UInt64.ofNat_toNat]

variable {α : Type} {entry : Json → Option α} {write : α → Json}

@[simp] theorem required_some (entry : Json → Option α) (j : Json) :
    required entry (some j) = entry j :=
  rfl

@[simp] theorem optional_some (default : α) (entry : Json → Option α) (j : Json) :
    optional default entry (some j) = entry j :=
  rfl

@[simp] theorem optional_none (default : α) (entry : Json → Option α) :
    optional default entry none = some default :=
  rfl

@[simp] theorem asString?_string (s : String) : asString? (string s) = some s :=
  rfl

@[simp] theorem asBool?_bool (b : Bool) : asBool? (bool b) = some b :=
  rfl

@[simp] theorem lookup_cons (name key : String) (j : Json) (members : List (String × Json)) :
    lookup name ((key, j) :: members) = if key = name then some j else lookup name members :=
  rfl

@[simp] theorem fields?_object (names : List String) (members : List (String × Json)) :
    fields? names (object members) = some (names.map fun name => lookup name members) :=
  rfl

@[simp] theorem node?_object (name : String) (members : List (String × Json)) :
    node? name (object members) = (lookup name members).map fun kind => (kind, object members) :=
  rfl

theorem asOption?_ofOption (reads : ∀ a, entry (write a) = some a) (full : ∀ a, write a ≠ null)
    (o : Option α) : asOption? entry (ofOption write o) = some o := by
  cases o with
  | none => rfl
  | some a =>
    rw [ofOption, asOption?, reads, Option.map_some]
    exact full a

theorem asList?_ofList_if {readable : α → Bool} {as : List α}
    (reads : ∀ a ∈ as, entry (write a) = if readable a then some a else none) :
    asList? entry (ofList write as) = if as.all readable then some as else none := by
  rw [ofList, asList?]
  induction as with
  | nil => rfl
  | cons a as ih =>
    obtain ⟨first, rest⟩ := List.forall_mem_cons.1 reads
    rw [List.map_cons, List.mapM_cons, first, ih rest, List.all_cons]
    cases readable a <;> cases as.all readable <;> rfl

theorem asList?_ofList {as : List α} (reads : ∀ a ∈ as, entry (write a) = some a) :
    asList? entry (ofList write as) = some as := by
  have read : asList? entry (ofList write as) = if as.all fun _ => true then some as else none :=
    asList?_ofList_if reads
  simpa using read

theorem depth_pos (j : Json) : 0 < j.depth := by
  cases j <;> simp [depth]

theorem depth_le_of_mem {j : Json} {items : List Json} (h : j ∈ items) :
    j.depth ≤ depthOfItems items := by
  induction items with
  | nil => cases h
  | cons item items ih =>
    rw [depthOfItems]
    rcases List.mem_cons.1 h with rfl | later
    · exact Nat.le_max_left _ _
    · exact Nat.le_trans (ih later) (Nat.le_max_right _ _)

end EntityQuery.Json
