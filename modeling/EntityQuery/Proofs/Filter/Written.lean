import EntityQuery.Filter.Literal
import EntityQuery.Proofs.Calendar.Reading
import EntityQuery.Proofs.Text.Basic
import EntityQuery.Proofs.Uuid

set_option autoImplicit false

namespace EntityQuery

open Text

variable {ι : Type}

namespace FieldType

theorem readValue?_padded (type : FieldType ι) {front back : String}
    (before : ∀ c ∈ front.toList, isBlank c = true) (after : ∀ c ∈ back.toList, isBlank c = true)
    {text : String} (solid : Solid text.toList) :
    type.readValue? (front ++ text ++ back) = type.readTrimmed? text.toList := by
  have chars : (front ++ text ++ back).toList = front.toList ++ text.toList ++ back.toList := by
    simp
  rw [readValue?, chars, trimChars_pad before after, trimChars_of_solid solid]

theorem boolText_solid (b : Bool) : Solid (Value.boolText b).toList := by
  cases b <;> decide

theorem readBool?_boolText (b : Bool) : readBool? (Value.boolText b) = some b := by
  cases b <;> decide

theorem readValue?_toText_dateTime {front back : String}
    (before : ∀ c ∈ front.toList, isBlank c = true) (after : ∀ c ∈ back.toList, isBlank c = true)
    (t : DateTime) :
    (dateTime : FieldType ι).readValue? (front ++ (Value.dateTime t).toText ++ back) =
      if 0 ≤ t.date.year ∧ t.date.year ≤ 9999 then some (.dateTime t.carried) else none := by
  have chars : (Value.dateTime t).toText.toList = t.toChars DateTime.universal := t.toList_toText
  have zone : Solid DateTime.universal := by decide
  rw [readValue?_padded _ before after (chars ▸ t.toChars_solid zone), readTrimmed?, chars,
    t.read?_toChars]
  split <;> rfl

/-- Whatever blanks are put around its text, a value is read as itself. An instant is read only if
its year is written in four digits, and as the one that its text shows. -/
theorem readValue?_toText {front back : String} (before : ∀ c ∈ front.toList, isBlank c = true)
    (after : ∀ c ∈ back.toList, isBlank c = true) :
    (∀ n, (integer : FieldType ι).readValue? (front ++ (Value.integer n).toText ++ back) =
        some (.integer n)) ∧
      (∀ b, (boolean : FieldType ι).readValue? (front ++ (Value.bool b).toText ++ back) =
        some (.bool b)) ∧
      (∀ u, (uuid : FieldType ι).readValue? (front ++ (Value.uuid u).toText ++ back) =
        some (.uuid u)) ∧
      (∀ d, (date : FieldType ι).readValue? (front ++ (Value.date d).toText ++ back) =
        some (.date d)) ∧
      (∀ t, (dateTime : FieldType ι).readValue? (front ++ (Value.dateTime t).toText ++ back) =
        if 0 ≤ t.date.year ∧ t.date.year ≤ 9999 then some (.dateTime t.carried) else none) ∧
      ∀ t : DateTime, t.carried = t ↔ t.OnMinute := by
  refine ⟨fun n => ?_, fun b => ?_, fun u => ?_, fun d => ?_,
    readValue?_toText_dateTime before after, fun t => DateTime.carried_eq_self_iff⟩
  · have chars : (Value.integer n).toText.toList = signedDigits n.toInt := String.toList_ofList
    rw [readValue?_padded _ before after (chars ▸ solid_signedDigits _), chars, readTrimmed?,
      readInt?_signedDigits, Option.bind_some, int64?_toInt, Option.map_some]
  · have text : (Value.bool b).toText = Value.boolText b := rfl
    rw [text, readValue?_padded _ before after (boolText_solid b), readTrimmed?,
      String.ofList_toList, readBool?_boolText, Option.map_some]
  · have chars : (Value.uuid u).toText.toList = u.toChars := String.toList_ofList
    have read : Uuid.read? (Value.uuid u).toText.toList = some u := u.read?_toText
    rw [readValue?_padded _ before after (chars ▸ u.toChars_solid), readTrimmed?, read,
      Option.map_some]
  · have chars : (Value.date d).toText.toList = d.toChars := String.toList_ofList
    rw [readValue?_padded _ before after (chars ▸ d.toChars_solid), readTrimmed?, chars,
      d.read?_toChars, Option.map_some]

section

def wideFront : String := "\u3000\t"
def wideBack : String := " \u2028"

-- The second before the first year is a leap second, and half of it is over.
def beforeYearZero : DateTime :=
  ⟨⟨-1, 12, 31, by decide⟩, 86399, 1500000000, by decide⟩

def inYearZero : DateTime :=
  ⟨⟨0, 1, 1, by decide⟩, 86399, 1500000000, by decide⟩

-- A leap second of which half is over, in the middle of a minute.
def midMinuteLeap : DateTime :=
  ⟨⟨2024, 1, 1, by decide⟩, 45015, 1500000000, by decide⟩

def afterMidMinute : DateTime :=
  ⟨⟨2024, 1, 1, by decide⟩, 45016, 500000000, by decide⟩

theorem leapSecond_read :
    (∀ c ∈ wideFront.toList, isBlank c = true) ∧ (∀ c ∈ wideBack.toList, isBlank c = true) ∧
      (Value.dateTime inYearZero).toText = "0000-01-01T23:59:60.500+00:00" ∧
      (dateTime : FieldType Unit).readValue?
        (wideFront ++ (Value.dateTime inYearZero).toText ++ wideBack) =
          some (.dateTime inYearZero) ∧
      (dateTime : FieldType Unit).readValue?
        (wideFront ++ (Value.dateTime beforeYearZero).toText ++ wideBack) = none ∧
      (date : FieldType Unit).readValue?
        (wideFront ++ (Value.date beforeYearZero.date).toText ++ wideBack) =
          some (.date beforeYearZero.date) ∧
      (integer : FieldType Unit).readValue?
        (wideFront ++ (Value.integer (-0x8000000000000000)).toText ++ wideBack) =
          some (.integer (-0x8000000000000000)) := by
  have before : ∀ c ∈ wideFront.toList, isBlank c = true := List.all_eq_true.1 (by decide)
  have after : ∀ c ∈ wideBack.toList, isBlank c = true := List.all_eq_true.1 (by decide)
  obtain ⟨integers, -, -, dates, instants, same⟩ := @readValue?_toText Unit _ _ before after
  have itself : inYearZero.carried = inYearZero := (same inYearZero).2 fun _ => rfl
  have read := instants inYearZero
  rw [itself] at read
  exact ⟨before, after, by decide +kernel, read, instants beforeYearZero,
    dates beforeYearZero.date, integers _⟩

theorem midMinuteLeap_readAsNext :
    (Value.dateTime midMinuteLeap).toText = "2024-01-01T12:30:16.500+00:00" ∧
      (dateTime : FieldType Unit).readValue? (Value.dateTime midMinuteLeap).toText =
        some (.dateTime afterMidMinute) ∧
      afterMidMinute ≠ midMinuteLeap := by
  have read := @readValue?_toText_dateTime Unit "" "" (by simp) (by simp) midMinuteLeap
  rw [String.empty_append, String.append_empty] at read
  exact ⟨by decide +kernel, read, by decide⟩

end

end FieldType

end EntityQuery
