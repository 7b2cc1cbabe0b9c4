import EntityQuery.Binary64.Rounding
import Mathlib.Algebra.Group.Nat.Defs
import Mathlib.Order.MinMax

set_option autoImplicit false

namespace EntityQuery.Binary64

theorem le_roundDiv (n d : Nat) : n / d ≤ roundDiv n d := by
  rw [roundDiv]
  split <;> omega

theorem roundDiv_le (n d : Nat) : roundDiv n d ≤ n / d + 1 := by
  rw [roundDiv]
  split <;> omega

theorem roundDiv_one (n : Nat) : roundDiv n 1 = n := by
  simp [roundDiv, Nat.mod_one]

theorem roundDiv_mono {n n' : Nat} (d : Nat) (h : n ≤ n') : roundDiv n d ≤ roundDiv n' d := by
  have quotients : n / d ≤ n' / d := Nat.div_le_div_right h
  by_cases same : n / d = n' / d
  next =>
    have remainders : n % d ≤ n' % d := by
      have left := Nat.div_add_mod n d
      have right := Nat.div_add_mod n' d
      rw [same] at left
      omega
    simp only [roundDiv, same]
    split <;> split <;> omega
  next =>
    have := roundDiv_le n d
    have := le_roundDiv n' d
    omega

def wholeSignificand (n : Nat) : Nat :=
  roundDiv (n * 2 ^ (52 - n.log2)) (2 ^ (n.log2 - 52))

theorem magnitudeOfRatio_whole {n : Nat} (positive : n ≠ 0) :
    magnitudeOfRatio n 1 =
      min infinityMagnitude ((n.log2 + 1022) * exponentUnit + wholeSignificand n) := by
  have exponent : floorLog2 n 1 = n.log2 := by
    have atLeast : 2 ^ n.log2 ≤ n := Nat.log2_self_le positive
    have one : Nat.log2 1 = 0 := by decide
    simp [floorLog2, atLeastPowTwo, Nat.pow_eq, one, atLeast]
  have unit : unitExponent n 1 = (n.log2 : Int) - 52 := by
    rw [unitExponent, exponent]
    omega
  have up : (-((n.log2 : Int) - 52)).toNat = 52 - n.log2 := by omega
  have down : ((n.log2 : Int) - 52).toNat = n.log2 - 52 := by omega
  have place : ((n.log2 : Int) - 52 + 1074).toNat = n.log2 + 1022 := by omega
  simp only [magnitudeOfRatio, if_neg positive, unit, up, down, place, Nat.one_mul, Nat.pow_eq,
    wholeSignificand]

theorem significand_bounds {n : Nat} (positive : n ≠ 0) :
    exponentUnit ≤ n * 2 ^ (52 - n.log2) / 2 ^ (n.log2 - 52) ∧
      n * 2 ^ (52 - n.log2) / 2 ^ (n.log2 - 52) < 2 * exponentUnit := by
  have low : 2 ^ n.log2 ≤ n := Nat.log2_self_le positive
  have high : n < 2 ^ (n.log2 + 1) := Nat.lt_log2_self
  have scale : 2 ^ n.log2 * 2 ^ (52 - n.log2) = exponentUnit * 2 ^ (n.log2 - 52) := by
    have unit : exponentUnit = 2 ^ 52 := by decide
    rw [unit, ← Nat.pow_add, ← Nat.pow_add]
    congr 1
    omega
  constructor
  · rw [Nat.le_div_iff_mul_le (Nat.two_pow_pos _), ← scale]
    exact Nat.mul_le_mul_right _ low
  · rw [Nat.div_lt_iff_lt_mul (Nat.two_pow_pos _), Nat.mul_assoc, ← scale, ← Nat.mul_assoc,
      ← Nat.pow_succ']
    exact Nat.mul_lt_mul_of_pos_right high (Nat.two_pow_pos _)

theorem wholeSignificand_bounds {n : Nat} (positive : n ≠ 0) :
    exponentUnit ≤ wholeSignificand n ∧ wholeSignificand n ≤ 2 * exponentUnit := by
  have exact := significand_bounds positive
  have low := le_roundDiv (n * 2 ^ (52 - n.log2)) (2 ^ (n.log2 - 52))
  have high := roundDiv_le (n * 2 ^ (52 - n.log2)) (2 ^ (n.log2 - 52))
  rw [wholeSignificand]
  omega

theorem carry_le {place place' unit significand significand' : Nat} (h : place < place')
    (high : significand ≤ 2 * unit) (low : unit ≤ significand') :
    place * unit + significand ≤ place' * unit + significand' := by
  have step : (place + 1) * unit ≤ place' * unit := Nat.mul_le_mul_right _ h
  rw [Nat.add_mul, Nat.one_mul] at step
  omega

theorem magnitudeOfRatio_mono {n n' : Nat} (h : n ≤ n') :
    magnitudeOfRatio n 1 ≤ magnitudeOfRatio n' 1 := by
  by_cases zero : n = 0
  next => simp [zero, magnitudeOfRatio]
  next =>
    have positive : n' ≠ 0 := by omega
    rw [magnitudeOfRatio_whole zero, magnitudeOfRatio_whole positive]
    have exponents : n.log2 ≤ n'.log2 := (Nat.le_log2 positive).2 ((Nat.log2_self_le zero).trans h)
    apply min_le_min le_rfl
    by_cases same : n.log2 = n'.log2
    next =>
      have significands : wholeSignificand n ≤ wholeSignificand n' := by
        rw [wholeSignificand, wholeSignificand, same]
        exact roundDiv_mono _ (Nat.mul_le_mul_right _ h)
      rw [same]
      exact Nat.add_le_add_left significands _
    next =>
      have later : n.log2 + 1022 < n'.log2 + 1022 := by omega
      exact carry_le later (wholeSignificand_bounds zero).2 (wholeSignificand_bounds positive).1

theorem wholeSignificand_exact {n : Nat} (few : n.log2 ≤ 52) :
    wholeSignificand n = n * 2 ^ (52 - n.log2) := by
  rw [wholeSignificand, Nat.sub_eq_zero_of_le few, Nat.pow_zero, roundDiv_one]

theorem magnitudeOfRatio_strictMono {n n' : Nat} (h : n < n') (small : n' ≤ 2 ^ 53) :
    magnitudeOfRatio n 1 < magnitudeOfRatio n' 1 := by
  have positive : n' ≠ 0 := by omega
  have log : n'.log2 ≤ 53 :=
    (Nat.pow_le_pow_iff_right (by decide)).1 ((Nat.log2_self_le positive).trans small)
  have bounds := wholeSignificand_bounds positive
  have finite : (n'.log2 + 1022) * exponentUnit + wholeSignificand n' < infinityMagnitude := by
    calc (n'.log2 + 1022) * exponentUnit + wholeSignificand n'
        ≤ 1075 * exponentUnit + 2 * exponentUnit :=
          Nat.add_le_add (Nat.mul_le_mul_right _ (by omega)) bounds.2
      _ < infinityMagnitude := by decide
  have unit : 0 < exponentUnit := by decide
  rw [magnitudeOfRatio_whole positive, min_eq_right finite.le]
  by_cases zero : n = 0
  next =>
    rw [zero, magnitudeOfRatio, if_pos rfl]
    exact Nat.add_pos_right _ (unit.trans_le bounds.1)
  next =>
    have few : n.log2 ≤ 52 := Nat.le_of_lt_succ ((Nat.log2_lt zero).2 (h.trans_le small))
    have exponents : n.log2 ≤ n'.log2 :=
      (Nat.le_log2 positive).2 ((Nat.log2_self_le zero).trans h.le)
    have below : wholeSignificand n < 2 * exponentUnit := by
      have exact := (significand_bounds zero).2
      rwa [Nat.sub_eq_zero_of_le few, Nat.pow_zero, Nat.div_one, ← wholeSignificand_exact few]
        at exact
    rw [magnitudeOfRatio_whole zero]
    refine (min_le_right _ _).trans_lt ?_
    by_cases same : n.log2 = n'.log2
    next =>
      have fewer : n'.log2 ≤ 52 := same ▸ few
      rw [wholeSignificand_exact few, wholeSignificand_exact fewer, same]
      exact Nat.add_lt_add_left (Nat.mul_lt_mul_of_pos_right h (Nat.two_pow_pos _)) _
    next => exact carry_le (by omega) (Nat.succ_le_of_lt below) bounds.1

theorem magnitudeOfRatio_le (n : Nat) : magnitudeOfRatio n 1 ≤ infinityMagnitude := by
  by_cases zero : n = 0
  next =>
    rw [zero, magnitudeOfRatio, if_pos rfl]
    exact Nat.zero_le _
  next =>
    rw [magnitudeOfRatio_whole zero]
    exact min_le_left _ _

theorem magnitudeOfRatio_lt_signBit (n : Nat) : magnitudeOfRatio n 1 < signBit :=
  (magnitudeOfRatio_le n).trans_lt (by decide)

theorem totalKey_ofMagnitude (negative : Bool) {m : Nat} (h : m < signBit) :
    (ofMagnitude negative m).totalKey = if negative then -(m : Int) - 1 else m := by
  have word : signBit + m < 2 ^ 64 := by
    rw [signBit] at h ⊢
    omega
  cases negative with
  | false =>
    have bits : (ofMagnitude false m).bits.toNat = m := by
      simp only [ofMagnitude, Bool.false_eq_true, if_false, UInt64.toNat_ofNat']
      exact Nat.mod_eq_of_lt (by omega)
    simp [totalKey, isNegative, magnitude, bits, Nat.not_le.2 h, Nat.mod_eq_of_lt h]
  | true =>
    have bits : (ofMagnitude true m).bits.toNat = signBit + m := by
      simp only [ofMagnitude, if_true, UInt64.toNat_ofNat']
      exact Nat.mod_eq_of_lt word
    simp [totalKey, isNegative, magnitude, bits, Nat.mod_eq_of_lt h]

theorem totalKey_ofInt (n : Int) :
    (ofInt n).totalKey =
      if n < 0 then -(magnitudeOfRatio n.natAbs 1 : Int) - 1 else magnitudeOfRatio n.natAbs 1 := by
  rw [ofInt, totalKey_ofMagnitude _ (magnitudeOfRatio_lt_signBit _)]
  simp only [decide_eq_true_eq]

theorem ofInt_mono {m n : Int} (h : m ≤ n) : (ofInt m).totalKey ≤ (ofInt n).totalKey := by
  rw [totalKey_ofInt, totalKey_ofInt]
  split <;> split
  next left right =>
    have := magnitudeOfRatio_mono (show n.natAbs ≤ m.natAbs by omega)
    omega
  next => omega
  next => omega
  next left right =>
    have := magnitudeOfRatio_mono (show m.natAbs ≤ n.natAbs by omega)
    omega

theorem ofInt_inj {m n : Int} (hm : m.natAbs ≤ 2 ^ 53) (hn : n.natAbs ≤ 2 ^ 53)
    (h : ofInt m = ofInt n) : m = n := by
  have keys := congrArg totalKey h
  rw [totalKey_ofInt, totalKey_ofInt] at keys
  have sizes : magnitudeOfRatio m.natAbs 1 = magnitudeOfRatio n.natAbs 1 → m.natAbs = n.natAbs := by
    intro same
    rcases Nat.lt_trichotomy m.natAbs n.natAbs with less | equal | more
    · exact absurd same (magnitudeOfRatio_strictMono less hn).ne
    · exact equal
    · exact absurd same (magnitudeOfRatio_strictMono more hm).ne'
  split at keys <;> split at keys <;> omega

theorem toNat_bits (x : Binary64) :
    x.bits.toNat = if x.isNegative then signBit + x.magnitude else x.magnitude := by
  have word := x.bits.toNat_lt
  have unit : 2 ^ 64 = 2 * signBit := by decide
  rw [magnitude, isNegative]
  by_cases h : signBit ≤ x.bits.toNat
  next =>
    have rest : x.bits.toNat % signBit = x.bits.toNat - signBit := by
      rw [Nat.mod_eq_sub_mod h, Nat.mod_eq_of_lt (by omega)]
    rw [if_pos (decide_eq_true h), rest]
    omega
  next => rw [if_neg (by simpa using h), Nat.mod_eq_of_lt (by omega)]

theorem totalKey_inj {x y : Binary64} (h : x.totalKey = y.totalKey) : x = y := by
  have bits : x.bits.toNat = y.bits.toNat := by
    rw [toNat_bits, toNat_bits]
    rw [totalKey, totalKey] at h
    cases left : x.isNegative <;> cases right : y.isNegative <;>
      simp only [left, right, Bool.false_eq_true, if_true, if_false] at h ⊢ <;> omega
  cases x
  cases y
  exact congrArg mk (UInt64.toNat_inj.1 bits)

end EntityQuery.Binary64
