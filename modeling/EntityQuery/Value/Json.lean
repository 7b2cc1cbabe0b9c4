import EntityQuery.Calendar.Reading
import EntityQuery.Json.Basic
import EntityQuery.Value.Basic

set_option autoImplicit false

namespace EntityQuery.Value

open Json

def tagged (kind : String) (content : Json) : Json :=
  object [("type", .string kind), ("value", content)]

def toJson : Value → Json
  | null => object [("type", .string "null")]
  | string s => tagged "string" (.string s)
  | integer n => tagged "integer" (.integer n.toInt)
  | float x => tagged "float" (if x.isFinite then .float x else .null)
  | bool b => tagged "bool" (.bool b)
  | dateTime t => tagged "dateTime" (.string t.toZuluText)
  | date d => tagged "date" (.string d.toText)
  | uuid u => tagged "uuid" (.string u.toText)

def fromChars? {α : Type} (read? : List Char → Option α) (j : Json) : Option α :=
  j.asString?.bind fun s => read? s.toList

def ofNull? : Json → Option Value
  | .null => some null
  | _ => none

def kinds : List (String × (Json → Option Value)) :=
  [("null", ofNull?),
    ("string", fun j => j.asString?.map string),
    ("integer", fun j => j.asInt64?.map integer),
    ("float", fun j => j.asFloat?.map float),
    ("bool", fun j => j.asBool?.map bool),
    ("dateTime", fun j => (fromChars? DateTime.readLoose? j).map dateTime),
    ("date", fun j => (fromChars? Date.readLoose? j).map date),
    ("uuid", fun j => (fromChars? Uuid.read? j).map uuid)]

/-- `kind?` takes the reader of the content from the kind. A content that is missing is as `null`,
which only the kind of that name accepts. -/
def ofTagged? (kind? : Json → Option (Json → Option Value)) : Json → Option Value
  | object members => do
    let read? ← (lookup "type" members).bind kind?
    read? ((lookup "value" members).getD .null)
  | array [kind, content] => (kind? kind).bind fun read? => read? content
  | _ => none

def ofJson? : Json → Option Value :=
  ofTagged? (asName? kinds)

def ofInnerJson? : Json → Option Value :=
  ofTagged? (asInnerName? kinds)

end EntityQuery.Value
