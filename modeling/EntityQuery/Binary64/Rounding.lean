import EntityQuery.Binary64.Basic

set_option autoImplicit false

namespace EntityQuery.Binary64

def roundDiv (n d : Nat) : Nat :=
  let q := n / d
  let r := n % d
  if d < 2 * r ∨ (d = 2 * r ∧ q % 2 = 1) then q + 1 else q

def atLeastPowTwo (n d : Nat) (e : Int) : Bool :=
  d * Nat.pow 2 e.toNat ≤ n * Nat.pow 2 (-e).toNat

def floorLog2 (n d : Nat) : Int :=
  let e : Int := (n.log2 : Int) - d.log2
  if atLeastPowTwo n d e then e else e - 1

def unitExponent (n d : Nat) : Int :=
  max (-1074) (floorLog2 n d - 52)

def magnitudeOfRatio (n d : Nat) : Nat :=
  if n = 0 then 0
  else
    let q := unitExponent n d
    -- A subnormal number has the least unit, and nothing in the exponent bits.
    let significand := roundDiv (n * Nat.pow 2 (-q).toNat) (d * Nat.pow 2 q.toNat)
    min infinityMagnitude ((q + 1074).toNat * exponentUnit + significand)

def ofInt (n : Int) : Binary64 :=
  ofMagnitude (n < 0) (magnitudeOfRatio n.natAbs 1)

end EntityQuery.Binary64
