import EntityQuery.Binary64.Rounding
import EntityQuery.Text.Numeral

set_option autoImplicit false

namespace EntityQuery.Binary64

open Text

def magnitudeOfDecimal (d : Nat) (e : Int) : Nat :=
  let size : Int := e + (digits d).length
  if d = 0 ∨ size < -330 then 0
  else if 330 < size then infinityMagnitude
  else magnitudeOfRatio (d * Nat.pow 10 e.toNat) (Nat.pow 10 (-e).toNat)

def ofDecimal (negative : Bool) (d : Nat) (e : Int) : Binary64 :=
  ofMagnitude negative (magnitudeOfDecimal d e)

def readExponent? : List Char → Option Int
  | [] => some 0
  | c :: cs => if c = 'e' ∨ c = 'E' then readInt? cs else none

def readUnsigned? (negative : Bool) (cs : List Char) : Option Binary64 := do
  let whole := cs.takeWhile Char.isDigit
  let rest := cs.dropWhile Char.isDigit
  let (places, rest) := match rest with
    | '.' :: tail => (tail.takeWhile Char.isDigit, tail.dropWhile Char.isDigit)
    | rest => ([], rest)
  guard (whole ++ places ≠ [])
  let e ← readExponent? rest
  return ofDecimal negative (Nat.ofDigitChars 10 (whole ++ places) 0) (e - places.length)

def read? (cs : List Char) : Option Binary64 :=
  (match cs with
    | '-' :: rest => readUnsigned? true rest
    | '+' :: rest => readUnsigned? false rest
    | rest => readUnsigned? false rest).filter isFinite

end EntityQuery.Binary64
