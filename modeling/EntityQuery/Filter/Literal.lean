import EntityQuery.Binary64.Numeral
import EntityQuery.Calendar.Reading
import EntityQuery.Schema.Basic
import EntityQuery.Value.Basic

set_option autoImplicit false

namespace EntityQuery

namespace FieldType

variable {ι : Type}

def readBool? (s : String) : Option Bool :=
  match Text.foldAscii s with
  | "true" | "1" | "yes" => some true
  | "false" | "0" | "no" => some false
  | _ => none

def readTrimmed? (type : FieldType ι) (cs : List Char) : Option Value :=
  match type with
  | string => some (.string (String.ofList cs))
  | integer => ((Text.readInt? cs).bind int64?).map Value.integer
  | float => (Binary64.read? cs).map Value.float
  | boolean => (readBool? (String.ofList cs)).map Value.bool
  | dateTime => (DateTime.read? cs).map Value.dateTime
  | date => (Date.read? cs).map Value.date
  | uuid => (Uuid.read? cs).map Value.uuid
  | enumeration variants =>
    (variants.find? fun v => Text.sameIgnoringAsciiCase v (String.ofList cs)).map Value.string
  | object _ => none

def readValue? (type : FieldType ι) (text : String) : Option Value :=
  type.readTrimmed? (Text.trimChars text.toList)

def defaultValue : FieldType ι → Value
  | string => .string ""
  | integer => .integer 0
  | float => .float Binary64.zero
  | boolean => .bool false
  | dateTime => .dateTime DateTime.epoch
  | date => .date Date.epoch
  | uuid => .uuid Uuid.nil
  | enumeration variants => match variants with
    | v :: _ => .string v
    | [] => .null
  | object _ => .null

end FieldType

end EntityQuery
