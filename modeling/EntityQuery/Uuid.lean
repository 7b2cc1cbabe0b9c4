import EntityQuery.Text.Basic

set_option autoImplicit false

namespace EntityQuery

structure Uuid where
  bits : BitVec 128
  deriving DecidableEq

namespace Uuid

def nil : Uuid := ⟨0⟩

def compare (a b : Uuid) : Ordering :=
  Ord.compare a.bits.toNat b.bits.toNat

def hexValue? (c : Char) : Option Nat :=
  if '0' ≤ c ∧ c ≤ '9' then some (c.toNat - '0'.toNat)
  else if 'a' ≤ c ∧ c ≤ 'f' then some (c.toNat - 'a'.toNat + 10)
  else if 'A' ≤ c ∧ c ≤ 'F' then some (c.toNat - 'A'.toNat + 10)
  else none

def readHex? (acc : Nat) : List Char → Option Nat
  | [] => some acc
  | c :: cs => (hexValue? c).bind fun d => readHex? (16 * acc + d) cs

def readDigits? (cs : List Char) : Option Uuid :=
  if cs.length = 32 then (readHex? 0 cs).map fun n => ⟨BitVec.ofNat 128 n⟩ else none

def readGroups? (cs : List Char) : Option Uuid :=
  let group (start size : Nat) := (cs.drop start).take size
  if cs.length = 36 ∧ [8, 13, 18, 23].all fun i => cs[i]? == some '-' then
    readDigits? (group 0 8 ++ group 9 4 ++ group 14 4 ++ group 19 4 ++ group 24 12)
  else none

def urnHead : List Char := ['u', 'r', 'n', ':', 'u', 'u', 'i', 'd', ':']

def read? (cs : List Char) : Option Uuid :=
  match cs.length with
  | 32 => readDigits? cs
  | 36 => readGroups? cs
  | 38 => if cs.head? = some '{' ∧ cs.getLast? = some '}' then readGroups? (cs.drop 1).dropLast
          else none
  | 45 => if (cs.take 9).map Text.foldAsciiChar = urnHead then readGroups? (cs.drop 9) else none
  | _ => none

def hexDigits (u : Uuid) : List Char :=
  let ds := Nat.toDigits 16 u.bits.toNat
  List.replicate (32 - ds.length) '0' ++ ds

def toChars (u : Uuid) : List Char :=
  let ds := u.hexDigits
  let group (start size : Nat) := (ds.drop start).take size
  group 0 8 ++ '-' :: group 8 4 ++ '-' :: group 12 4 ++ '-' :: group 16 4 ++ '-' :: group 20 12

def toText (u : Uuid) : String :=
  String.ofList u.toChars

end Uuid

end EntityQuery
