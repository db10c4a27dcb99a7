import Mathlib.Algebra.Field.Rat
import Mathlib.Algebra.Order.Ring.Int
import Mathlib.Data.Rat.Cast.CharZero
import TableGateway.Decimal.Binary64

/-!
# Exact values of floating-point numbers

A finite floating-point number is a rational number, and `rational?` says which, by the bits that
make it up. The significand and exponent that the library takes a number apart into denote the same
rational number, and `toInt?` decides by integer arithmetic alone whether it is an integer.

Main statements: `toInt?_eq_some_iff`, `map_value_ofFloat?`, `bind_toInt?_eq_some_iff`.
-/

namespace TableGateway

open Float.Model (Format UnpackedFloat)

/-- The number `n · 2 ^ exponent`. -/
def dyadic (n exponent : Int) : ℚ := n * 2 ^ exponent

/-- The rational number of an unpacked floating-point number, if it is finite. -/
def unpackedRational? : UnpackedFloat → Option ℚ
  | .zero _ => some 0
  | .finite sign mantissa exponent _ => some (dyadic (sign.apply mantissa) exponent)
  | .infinity _ | .notANumber => none

/-- The rational number that a floating-point number is, if it is finite. -/
def rational? (x : Float) : Option ℚ := unpackedRational? x.toModel.unpack

namespace Binary64

/-! ## Integers among the dyadic fractions -/

section Integers

variable {x : Binary64} {n : Int}

/-- A natural number with the sign of `x`. -/
def signed (x : Binary64) (n : Nat) : Int := if x.negative then -(n : Int) else n

/-- The rational number that this is. -/
def value (x : Binary64) : ℚ := dyadic (x.signed x.significand) x.exponent

theorem signed_mul (x : Binary64) (m k : Nat) : x.signed (m * k) = x.signed m * k := by
  unfold signed
  split
  · rw [Int.neg_mul, Int.natCast_mul]
  · exact Int.natCast_mul m k

theorem natCast_dvd_signed {m k : Nat} : (k : Int) ∣ x.signed m ↔ k ∣ m := by
  unfold signed
  split
  · rw [Int.dvd_neg, Int.natCast_dvd_natCast]
  · exact Int.natCast_dvd_natCast

/-- A signed number is a multiple exactly if the number without its sign can be divided. -/
theorem signed_eq_mul_iff {m k : Nat} (hk : 0 < k) :
    x.signed m = n * k ↔ k ∣ m ∧ x.signed (m / k) = n := by
  constructor
  · intro h
    have hdvd : k ∣ m := natCast_dvd_signed.mp ⟨n, by rw [h, Int.mul_comm]⟩
    refine ⟨hdvd, Int.eq_of_mul_eq_mul_right (Int.natCast_ne_zero.mpr hk.ne') ?_⟩
    rw [← signed_mul, Nat.div_mul_cancel hdvd, h]
  · rintro ⟨hdvd, rfl⟩
    rw [← signed_mul, Nat.div_mul_cancel hdvd]

/-- For the comparison with an integer the power of two goes to the side where it is whole. -/
theorem value_eq_intCast_iff :
    x.value = n
      ↔ x.signed x.significand * 2 ^ x.exponent.toNat = n * 2 ^ (-x.exponent).toNat := by
  rw [value, dyadic]
  cases hx : x.exponent with
  | ofNat k =>
    rw [Int.ofNat_eq_natCast, zpow_natCast, Int.toNat_natCast, Int.toNat_neg_natCast, pow_zero,
      mul_one]
    exact_mod_cast Iff.rfl
  | negSucc k =>
    rw [zpow_negSucc, mul_inv_eq_iff_eq_mul₀ (pow_ne_zero _ two_ne_zero)]
    show _ ↔ x.signed x.significand * 2 ^ 0 = n * 2 ^ (k + 1)
    rw [pow_zero, mul_one]
    exact_mod_cast Iff.rfl

/-- The integer that a number is read as is the one that it is. -/
theorem toInt?_eq_some_iff : x.toInt? = some n ↔ x.value = n := by
  rw [value_eq_intCast_iff, toInt?]
  cases hx : x.exponent with
  | ofNat k =>
    have hshift : x.signed (x.significand <<< k) = x.signed x.significand * 2 ^ k := by
      rw [Nat.shiftLeft_eq, signed_mul]
      norm_cast
    rw [Int.ofNat_eq_natCast, Int.toNat_natCast, Int.toNat_neg_natCast, pow_zero, mul_one,
      ← hshift]
    exact Option.some_inj
  | negSucc k =>
    have hdivide :=
      signed_eq_mul_iff (x := x) (n := n) (m := x.significand) (Nat.two_pow_pos (k + 1))
    show (if x.significand % 1 <<< (k + 1) = 0 then
        some (x.signed (x.significand >>> (k + 1))) else none) = some n
      ↔ x.signed x.significand * 2 ^ 0 = n * 2 ^ (k + 1)
    rw [pow_zero, mul_one, Nat.one_shiftLeft, Nat.shiftRight_eq_div_pow]
    push_cast at hdivide
    rw [hdivide, Nat.dvd_iff_mod_eq_zero]
    split
    · next hdvd => simp [hdvd]
    · next hdvd => simp [hdvd]

end Integers

/-! ## Taking a number apart -/

section Decoding

open Float.Model.UnpackedFloat (unpackMantissa unpackExponent unpackSign)

variable (x : Float)

/-- The stored bits of the significand. -/
def fractionField : BitVec 52 := @unpackMantissa Format.binary64 x.toModel.toBits.toBitVec

/-- The stored exponent. -/
def exponentField : BitVec 11 := @unpackExponent Format.binary64 x.toModel.toBits.toBitVec

/-- The stored sign. -/
def signField : BitVec 1 := @unpackSign Format.binary64 x.toModel.toBits.toBitVec

theorem toNat_fractionField :
    (fractionField x).toNat = x.toBits.toNat % (1 <<< fractionBits) := by
  rw [fractionField, unpackMantissa, BitVec.toNat_cast, BitVec.extractLsb_toNat]
  rfl

theorem toNat_exponentField :
    (exponentField x).toNat = (x.toBits.toNat >>> fractionBits) % (1 <<< exponentBits) := by
  rw [exponentField, unpackExponent, BitVec.toNat_cast, BitVec.extractLsb_toNat]
  rfl

/-- The sign is the only bit above the exponent. -/
theorem toNat_signField :
    (signField x).toNat = x.toBits.toNat >>> (fractionBits + exponentBits) := by
  have hlt : x.toBits.toNat >>> 63 < 2 := by
    rw [Nat.shiftRight_eq_div_pow, Nat.div_lt_iff_lt_mul (Nat.two_pow_pos 63)]
    exact x.toBits.toNat_lt
  delta signField unpackSign
  rw [BitVec.toNat_cast, BitVec.extractLsb_toNat]
  exact Nat.mod_eq_of_lt hlt

/-- What `ofFloat?` gives, by the fields. -/
theorem ofFloat?_eq :
    ofFloat? x =
      if exponentField x = -1#11 then none
      else if exponentField x = 0#11 then
        some ⟨(signField x).toNat = 1, (fractionField x).toNat, leastExponent⟩
      else
        some ⟨(signField x).toNat = 1, 2 ^ fractionBits + (fractionField x).toNat,
          (exponentField x).toNat - 1075⟩ := by
  have hfull : (exponentField x).toNat + 1 = 1 <<< exponentBits ↔ exponentField x = -1#11 :=
    ⟨fun h => BitVec.eq_of_toNat_eq (Nat.succ.inj h), fun h => by rw [h]; rfl⟩
  have hleast : (exponentField x).toNat = 0 ↔ exponentField x = 0#11 :=
    ⟨fun h => BitVec.eq_of_toNat_eq h, fun h => by rw [h]; rfl⟩
  rw [ofFloat?]
  simp only [← toNat_fractionField, ← toNat_exponentField, ← toNat_signField, hfull, hleast]
  split
  · rfl
  · split
    · rfl
    · next h =>
      have hexponent : leastExponent + ((exponentField x).toNat - 1 : Nat)
          = (exponentField x).toNat - 1075 := by
        have hpos : (exponentField x).toNat ≠ 0 := mt hleast.mp h
        rw [leastExponent]
        omega
      rw [hexponent, Nat.one_shiftLeft]

theorem apply_signField (n : Nat) (significand : Nat) (exponent : Int) :
    (UnpackedFloat.Sign.ofBitVec (signField x)).apply n
      = signed ⟨(signField x).toNat = 1, significand, exponent⟩ n := by
  have hbit : ∀ s : BitVec 1, s = 0#1 ∨ s = 1#1 := by decide
  rcases hbit (signField x) with h | h <;> rw [h] <;> rfl

/-- The rational number, by the fields. -/
theorem rational?_eq :
    rational? x =
      if exponentField x = -1#11 then none
      else if exponentField x = 0#11 then
        some (dyadic ((UnpackedFloat.Sign.ofBitVec (signField x)).apply (fractionField x).toNat)
          leastExponent)
      else
        some (dyadic ((UnpackedFloat.Sign.ofBitVec (signField x)).apply
          (2 ^ fractionBits + (fractionField x).toNat : Nat))
          ((exponentField x).toNat - 1075)) := by
  delta rational? Float.Model.unpack UnpackedFloat.unpack
  by_cases hfull : exponentField x = -1#11
  · -- A full exponent: an infinity or no number.
    rw [if_pos hfull]
    refine (congrArg unpackedRational? (if_pos hfull)).trans ?_
    rw [apply_ite unpackedRational?]
    exact ite_self none
  rw [if_neg hfull]
  refine (congrArg unpackedRational? (if_neg hfull)).trans ?_
  by_cases hleast : exponentField x = 0#11
  · rw [if_pos hleast]
    refine (congrArg unpackedRational? (if_pos hleast)).trans ?_
    by_cases hzero : fractionField x = 0#52
    · -- Zero keeps its sign, which makes no difference to the number.
      refine (congrArg unpackedRational? (dif_pos hzero)).trans ?_
      have hsigned : ∀ sign : UnpackedFloat.Sign, sign.apply (0#52).toNat = 0 := by
        intro sign
        cases sign <;> rfl
      rw [hzero, hsigned, dyadic, Int.cast_zero, zero_mul]
      rfl
    · refine (congrArg unpackedRational? (dif_neg hzero)).trans ?_
      show some (dyadic _ ((exponentField x).toNat - 1075 + 1)) = _
      rw [hleast]
      rfl
  · have hbit : (1#1 ++ fractionField x).toNat = 2 ^ fractionBits + (fractionField x).toNat := by
      rw [BitVec.toNat_append, ← Nat.shiftLeft_add_eq_or_of_lt (BitVec.isLt _)]
      rfl
    rw [if_neg hleast, ← hbit]
    exact congrArg unpackedRational? (if_neg hleast)

/-- Significand and exponent denote the number that they were taken from. -/
theorem map_value_ofFloat? : (ofFloat? x).map value = rational? x := by
  rw [ofFloat?_eq, rational?_eq]
  split
  · rfl
  · split
    · rw [Option.map_some, value, ← apply_signField]
    · rw [Option.map_some, value, ← apply_signField]

/-- The integer that is read off a floating-point number is the rational number that it is. -/
theorem bind_toInt?_eq_some_iff {n : Int} :
    (ofFloat? x).bind toInt? = some n ↔ rational? x = some (n : ℚ) := by
  rw [← map_value_ofFloat?, Option.bind_eq_some_iff, Option.map_eq_some_iff]
  simp only [toInt?_eq_some_iff]

end Decoding

end Binary64

end TableGateway
