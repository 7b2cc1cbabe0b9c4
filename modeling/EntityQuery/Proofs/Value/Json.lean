import EntityQuery.Proofs.Calendar.Reading
import EntityQuery.Proofs.Json.Basic
import EntityQuery.Proofs.Uuid
import EntityQuery.Value.Json

set_option autoImplicit false

namespace EntityQuery.Value

open Json

def isFinite : Value → Bool
  | float x => x.isFinite
  | _ => true

def Legible (v : Value) : Prop :=
  ∀ t, v = dateTime t → DateTime.readLoose? t.toZuluText.toList = some t

theorem legible_dateTime_iff {t : DateTime} : (dateTime t).Legible ↔ t.OnMinute := by
  simp [Legible, DateTime.readLoose?_toZuluText, DateTime.carried_eq_self_iff]

theorem fromChars?_string {α : Type} (read? : List Char → Option α) (s : String) :
    fromChars? read? (.string s) = read? s.toList :=
  rfl

theorem ofTagged?_toJson {kind? : Json → Option (Json → Option Value)}
    (named : ∀ s, kind? (.string s) = asName? kinds (.string s)) {v : Value}
    (legible : v.Legible) :
    ofTagged? kind? v.toJson = if v.isFinite then some v else none := by
  have tag {kind : String} {read? : Json → Option Value}
      (known : asName? kinds (.string kind) = some read?) (content : Json) :
      ofTagged? kind? (tagged kind content) = read? content := by
    simp [ofTagged?, tagged, named, known]
  cases v with
  | null =>
    have known : asName? kinds (.string "null") = some ofNull? := rfl
    simp [ofTagged?, toJson, lookup, named, known, ofNull?, isFinite]
  | string s | bool b =>
    rw [toJson, tag rfl]
    rfl
  | integer n =>
    rw [toJson, tag rfl]
    simp [asInt64?_toInt, isFinite]
  | float x =>
    rw [toJson, tag rfl]
    cases finite : x.isFinite <;> simp [finite, isFinite, asFloat?]
  | dateTime t =>
    rw [toJson, tag rfl]
    simp [fromChars?_string, legible t rfl, isFinite]
  | date d =>
    rw [toJson, tag rfl]
    simp [fromChars?_string, Date.readLoose?_toText, isFinite]
  | uuid u =>
    rw [toJson, tag rfl]
    simp [fromChars?_string, Uuid.read?_toText, isFinite]

end EntityQuery.Value
