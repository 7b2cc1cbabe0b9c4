set_option autoImplicit false

namespace EntityQuery

structure Binary64 where
  bits : UInt64
  deriving DecidableEq

namespace Binary64

def signBit : Nat := 0x8000000000000000

def exponentUnit : Nat := 0x10000000000000

def quietBit : Nat := 0x8000000000000

def magnitude (x : Binary64) : Nat :=
  x.bits.toNat % signBit

def isNegative (x : Binary64) : Bool :=
  signBit ≤ x.bits.toNat

def infinityMagnitude : Nat := 2047 * exponentUnit

def isNaN (x : Binary64) : Bool :=
  infinityMagnitude < x.magnitude

def isFinite (x : Binary64) : Bool :=
  x.magnitude < infinityMagnitude

def ofMagnitude (negative : Bool) (m : Nat) : Binary64 :=
  ⟨UInt64.ofNat (if negative then signBit + m else m)⟩

def zero : Binary64 := ofMagnitude false 0

def infinity (negative : Bool) : Binary64 := ofMagnitude negative infinityMagnitude

def quietNaN (negative : Bool) : Binary64 := ofMagnitude negative (infinityMagnitude + quietBit)

def numericKey (x : Binary64) : Int :=
  if x.isNegative then -(x.magnitude : Int) else x.magnitude

def totalKey (x : Binary64) : Int :=
  if x.isNegative then -(x.magnitude : Int) - 1 else x.magnitude

def compare? (x y : Binary64) : Option Ordering :=
  if x.isNaN || y.isNaN then none else some (compare x.numericKey y.numericKey)

def totalCompare (x y : Binary64) : Ordering :=
  compare x.totalKey y.totalKey

def numericEq (x y : Binary64) : Bool :=
  x.compare? y == some .eq

structure Scaled where
  significand : Nat
  exponent : Int
  deriving DecidableEq

def scaled (m : Nat) : Scaled :=
  let e : Nat := m / exponentUnit
  let f := m % exponentUnit
  -- Without exponent bits the leading one of the significand is not implied.
  if e = 0 then ⟨f, -1074⟩ else ⟨exponentUnit + f, (e : Int) - 1075⟩

end Binary64

end EntityQuery
