set_option autoImplicit false

namespace EntityQuery

abbrev Count := UInt64

namespace Count

def limit : Nat := 0xFFFFFFFFFFFFFFFF

def ofNat? (n : Nat) : Option Count :=
  if n ≤ limit then some (UInt64.ofNat n) else none

def saturatingMul (a b : Count) : Count :=
  UInt64.ofNat (min (a.toNat * b.toNat) limit)

end Count

def int64? (n : Int) : Option Int64 :=
  if -0x8000000000000000 ≤ n ∧ n < 0x8000000000000000 then some (Int64.ofInt n) else none

namespace Text

def readNat? (cs : List Char) : Option Nat :=
  if cs ≠ [] ∧ cs.all Char.isDigit then some (Nat.ofDigitChars 10 cs 0) else none

def readInt? : List Char → Option Int
  | '-' :: cs => (readNat? cs).map fun n => -(n : Int)
  | '+' :: cs => (readNat? cs).map Int.ofNat
  | cs => (readNat? cs).map Int.ofNat

def readCount? : List Char → Option Count
  | '+' :: cs => (readNat? cs).bind Count.ofNat?
  | cs => (readNat? cs).bind Count.ofNat?

def digits (n : Nat) : List Char :=
  Nat.toDigits 10 n

def paddedDigits (width n : Nat) : List Char :=
  List.replicate (width - (digits n).length) '0' ++ digits n

def signedDigits (n : Int) : List Char :=
  if n < 0 then '-' :: digits n.natAbs else digits n.natAbs

end Text

end EntityQuery
