import EntityQuery.Binary64.Shortest
import EntityQuery.Calendar.DateTime
import EntityQuery.Uuid

set_option autoImplicit false

namespace EntityQuery

inductive Value where
  | null
  | string (s : String)
  | integer (n : Int64)
  | float (x : Binary64)
  | bool (b : Bool)
  | dateTime (t : DateTime)
  | date (d : Date)
  | uuid (u : Uuid)
  deriving DecidableEq

namespace Value

def isNull : Value → Bool
  | null => true
  | _ => false

def asString? : Value → Option String
  | string s => some s
  | _ => none

def integerText (n : Int64) : String :=
  String.ofList (Text.signedDigits n.toInt)

def boolText (b : Bool) : String :=
  if b then "true" else "false"

def toText : Value → String
  | null => "null"
  | string s => "\"" ++ s ++ "\""
  | integer n => integerText n
  | float x => x.toText
  | bool b => boolText b
  | dateTime t => t.toText
  | date d => d.toText
  | uuid u => u.toText

end Value

end EntityQuery
