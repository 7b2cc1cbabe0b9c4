import EntityQuery.Json.Number
import EntityQuery.Uuid

set_option autoImplicit false

namespace EntityQuery.Json

open Text

def skipSpace (cs : List Char) : List Char :=
  cs.dropWhile fun c => c = ' ' ∨ c = '\t' ∨ c = '\n' ∨ c = '\r'

def afterWord? (word cs : List Char) : Option (List Char) :=
  if word.isPrefixOf cs then some (cs.drop word.length) else none

def readUnit? (cs : List Char) : Option (Nat × List Char) :=
  let ds := cs.take 4
  if ds.length = 4 then (Uuid.readHex? 0 ds).map fun n => (n, cs.drop 4) else none

def readEscapedUnit? (cs : List Char) : Option (Char × List Char) := do
  let (high, rest) ← readUnit? cs
  if 0xD800 ≤ high ∧ high < 0xDC00 then
    let rest ← afterWord? ['\\', 'u'] rest
    let (low, rest) ← readUnit? rest
    guard (0xDC00 ≤ low ∧ low < 0xE000)
    return (Char.ofNat (0x10000 + (high - 0xD800) * 0x400 + (low - 0xDC00)), rest)
  else
    guard (¬ (0xDC00 ≤ high ∧ high < 0xE000))
    return (Char.ofNat high, rest)

def readEscape? : List Char → Option (Char × List Char)
  | '"' :: cs => some ('"', cs)
  | '\\' :: cs => some ('\\', cs)
  | '/' :: cs => some ('/', cs)
  | 'b' :: cs => some ('\x08', cs)
  | 'f' :: cs => some ('\x0c', cs)
  | 'n' :: cs => some ('\n', cs)
  | 'r' :: cs => some ('\r', cs)
  | 't' :: cs => some ('\t', cs)
  | 'u' :: cs => readEscapedUnit? cs
  | _ => none

def readStringFrom? (done : List Char) : Nat → List Char → Option (String × List Char)
  | 0, _ => none
  | _ + 1, [] => none
  | fuel + 1, c :: cs =>
    if c = '"' then some (String.ofList done.reverse, cs)
    else if c = '\\' then
      (readEscape? cs).bind fun (d, cs) => readStringFrom? (d :: done) fuel cs
    else if c.toNat < 0x20 then none
    else readStringFrom? (c :: done) fuel cs

mutual

def readValue? : Nat → List Char → Option (Json × List Char)
  | 0, _ => none
  | fuel + 1, cs =>
    match skipSpace cs with
    | '"' :: rest =>
      (readStringFrom? [] (rest.length + 1) rest).map fun (s, rest) => (string s, rest)
    | '[' :: rest =>
      match skipSpace rest with
      | ']' :: rest => some (array [], rest)
      | rest => (readItems? fuel rest).map fun (js, rest) => (array js, rest)
    | '{' :: rest =>
      match skipSpace rest with
      | '}' :: rest => some (object [], rest)
      | rest => (readMembers? [] fuel rest).map fun (ms, rest) => (object ms, rest)
    | 'n' :: rest => (afterWord? ['u', 'l', 'l'] rest).map fun rest => (null, rest)
    | 't' :: rest => (afterWord? ['r', 'u', 'e'] rest).map fun rest => (bool true, rest)
    | 'f' :: rest => (afterWord? ['a', 'l', 's', 'e'] rest).map fun rest => (bool false, rest)
    | rest =>
      (ofNumber? (rest.takeWhile isNumberChar)).map fun j => (j, rest.dropWhile isNumberChar)

def readItems? : Nat → List Char → Option (List Json × List Char)
  | 0, _ => none
  | fuel + 1, cs => do
    let (j, rest) ← readValue? fuel cs
    match skipSpace rest with
    | ']' :: rest => return ([j], rest)
    | ',' :: rest =>
      let (js, rest) ← readItems? fuel rest
      return (j :: js, rest)
    | _ => none

def readMembers? (done : List (String × Json)) :
    Nat → List Char → Option (List (String × Json) × List Char)
  | 0, _ => none
  | fuel + 1, cs =>
    match skipSpace cs with
    | '"' :: rest => do
      let (name, rest) ← readStringFrom? [] (rest.length + 1) rest
      match skipSpace rest with
      | ':' :: rest =>
        let (j, rest) ← readValue? fuel rest
        let members := put name j done
        match skipSpace rest with
        | '}' :: rest => return (members, rest)
        | ',' :: rest => readMembers? members fuel rest
        | _ => none
      | _ => none
    | _ => none

end

def read? (s : String) : Option Json :=
  let cs := s.toList
  (readValue? (cs.length + 1) cs).bind fun (j, rest) =>
    if skipSpace rest = [] then some j else none

end EntityQuery.Json
