import EntityQuery.Binary64.Basic
import EntityQuery.Text.Numeral

set_option autoImplicit false

namespace EntityQuery.Binary64

open Text

/-- The reals that round to a number, as multiples of `numerator / denominator`: its value, and the
two ends, which belong to the interval iff the significand is even. -/
structure Interval where
  low : Nat
  value : Nat
  high : Nat
  closed : Bool
  numerator : Nat
  denominator : Nat
  deriving DecidableEq

def interval (m : Nat) : Interval :=
  let s := scaled m
  let v := 4 * s.significand
  let unit := s.exponent - 2
  { low := if m % exponentUnit = 0 ∧ exponentUnit < m then v - 1 else v - 2
    value := v
    high := v + 2
    closed := s.significand % 2 = 0
    numerator := Nat.pow 2 unit.toNat
    denominator := Nat.pow 2 (-unit).toNat }

namespace Interval

def onGrid (i : Interval) (g : Int) : Interval :=
  { i with
    numerator := i.numerator * Nat.pow 10 (-g).toNat
    denominator := i.denominator * Nat.pow 10 g.toNat }

def holds (i : Interval) (c : Nat) : Bool :=
  let x := c * i.denominator
  if i.closed then i.low * i.numerator ≤ x && x ≤ i.high * i.numerator
  else i.low * i.numerator < x && x < i.high * i.numerator

def pick? (i : Interval) : Option Nat :=
  let v := i.value * i.numerator
  let below := v / i.denominator
  let above := below + 1
  match i.holds below, i.holds above with
  | true, false => some below
  | false, true => some above
  | true, true =>
    -- The distances to both, in parts of the denominator.
    some (if v - below * i.denominator < above * i.denominator - v then below else above)
  | false, false => none

end Interval

def floorLog10 (n d : Nat) : Int :=
  let atLeast (p : Int) : Bool := d * Nat.pow 10 p.toNat ≤ n * Nat.pow 10 (-p).toNat
  -- 30103 / 100000 is the decimal logarithm of two to five places.
  let p := ((n.log2 : Int) - d.log2) * 30103 / 100000
  if atLeast (p + 1) then p + 1 else if atLeast p then p else p - 1

def search (i : Interval) (g : Int) : Nat → Nat × Int
  | 0 => (i.value * i.numerator / i.denominator, g)
  | fuel + 1 =>
    match (i.onGrid g).pick? with
    | some c => (c, g)
    | none => search i (g - 1) fuel

def shortest (m : Nat) : Nat × Int :=
  let i := interval m
  search i (floorLog10 (i.value * i.numerator) i.denominator) 18

def positional (c : Nat) (g : Int) : List Char :=
  if 0 ≤ g then digits c ++ List.replicate g.toNat '0'
  else
    let places := (-g).toNat
    let ds := paddedDigits (places + 1) c
    ds.take (ds.length - places) ++ '.' :: ds.drop (ds.length - places)

def withoutTrailingZero (c : Nat) (g : Int) : Nat × Int :=
  if c = 10 then (1, g + 1) else (c, g)

def toChars (x : Binary64) : List Char :=
  if x.isNaN then ['N', 'a', 'N']
  else
    let body :=
      if x.magnitude = infinityMagnitude then ['i', 'n', 'f']
      else if x.magnitude = 0 then ['0']
      else
        let (c, g) := shortest x.magnitude
        let (c, g) := withoutTrailingZero c g
        positional c g
    if x.isNegative then '-' :: body else body

def toText (x : Binary64) : String :=
  String.ofList x.toChars

end EntityQuery.Binary64
