import EntityQuery.Binary64.Numeral
import EntityQuery.Json.Basic

set_option autoImplicit false

namespace EntityQuery.Json

open Text

def isNumberChar (c : Char) : Bool :=
  c.isDigit || c = '-' || c = '+' || c = '.' || c = 'e' || c = 'E'

structure NumberText where
  negative : Bool
  whole : List Char
  places : Option (List Char)
  power : Option Int
  deriving DecidableEq

namespace NumberText

def read? (cs : List Char) : Option NumberText := do
  let (negative, body) := match cs with
    | '-' :: rest => (true, rest)
    | rest => (false, rest)
  let whole := body.takeWhile Char.isDigit
  guard (whole ≠ [] ∧ (whole.head? ≠ some '0' ∨ whole.length = 1))
  let (places, rest) := match body.dropWhile Char.isDigit with
    | '.' :: rest => (some (rest.takeWhile Char.isDigit), rest.dropWhile Char.isDigit)
    | rest => (none, rest)
  guard (places ≠ some [])
  match rest with
  | [] => return ⟨negative, whole, places, none⟩
  | _ :: _ =>
    let e ← Binary64.readExponent? rest
    return ⟨negative, whole, places, some e⟩

def toFloat (t : NumberText) : Binary64 :=
  let places := t.places.getD []
  Binary64.ofDecimal t.negative (Nat.ofDigitChars 10 (t.whole ++ places) 0)
    (t.power.getD 0 - places.length)

def value? (t : NumberText) : Option Json :=
  let asFloat := (some t.toFloat).filter Binary64.isFinite
  if t.places.isSome || t.power.isSome then asFloat.map float
  else
    let n : Int := Nat.ofDigitChars 10 t.whole 0
    let n := if t.negative then -n else n
    -- Only floats have a negative zero.
    if n = 0 ∧ t.negative then asFloat.map float
    else if -0x8000000000000000 ≤ n ∧ n ≤ Count.limit then some (integer n)
    else asFloat.map float

end NumberText

def ofNumber? (cs : List Char) : Option Json :=
  (NumberText.read? cs).bind NumberText.value?

end EntityQuery.Json
