import EntityQuery.Binary64.Shortest
import EntityQuery.Json.Basic

set_option autoImplicit false

namespace EntityQuery.Json

def escapedChar (c : Char) : String :=
  if c = '"' then "\\\""
  else if c = '\\' then "\\\\"
  else if c = '\x08' then "\\b"
  else if c = '\x0c' then "\\f"
  else if c = '\n' then "\\n"
  else if c = '\r' then "\\r"
  else if c = '\t' then "\\t"
  else if c.toNat < 0x20 then
    let ds := Nat.toDigits 16 c.toNat
    "\\u" ++ String.ofList (List.replicate (4 - ds.length) '0' ++ ds)
  else String.ofList [c]

def writeString (s : String) : String :=
  s.toList.foldl (fun text c => text ++ escapedChar c) "\"" ++ "\""

def writeFloat (x : Binary64) : String :=
  if x.isFinite then
    let cs := x.toChars
    String.ofList (if cs.contains '.' then cs else cs ++ ['.', '0'])
  else "null"

mutual

def write : Json → String
  | null => "null"
  | bool b => if b then "true" else "false"
  | integer n => String.ofList (Text.signedDigits n)
  | float x => writeFloat x
  | string s => writeString s
  | array items => "[" ++ writeItems items ++ "]"
  | object members => "\x7b" ++ writeMembers members ++ "\x7d"

def writeItems : List Json → String
  | [] => ""
  | [j] => j.write
  | j :: js => j.write ++ "," ++ writeItems js

def writeMembers : List (String × Json) → String
  | [] => ""
  | [(name, j)] => writeString name ++ ":" ++ j.write
  | (name, j) :: ms => writeString name ++ ":" ++ j.write ++ "," ++ writeMembers ms

end

end EntityQuery.Json
