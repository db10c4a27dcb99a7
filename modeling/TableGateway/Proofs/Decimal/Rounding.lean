import Mathlib.Algebra.Order.Field.Rat
import Mathlib.Tactic.Positivity
import Mathlib.Tactic.Ring
import TableGateway.Decimal.Shortest
import TableGateway.Proofs.Decimal.ExactValue

/-!
# Written decimals round to the number

The decimal that is written for a floating-point number lies in the interval of the numbers that
round to it. The search for the decimal compares natural numbers, both sides multiplied by the
powers that are missing; in terms of rational numbers it asks whether a point of a grid is in the
interval. It does not end without a hit, because the number itself is a point of the last grid.

Main statements: `Interval.holds_iff`, `Interval.isSome_nearest?_around`, `value_shortest_mem`.
-/

namespace TableGateway.Decimal

/-- The rational number that a decimal is. -/
def value (d : Decimal) : ℚ := d.coefficient * 10 ^ d.exponent

namespace Interval

variable {i : Interval} {tie : TieRule} {t : Int} {c : Nat}

/-! ## Comparisons -/

/-- The rational number lies in the interval. -/
def Mem (q : ℚ) (i : Interval) : Prop :=
  if i.closed then dyadic i.low i.unit ≤ q ∧ q ≤ dyadic i.high i.unit
  else dyadic i.low i.unit < q ∧ q < dyadic i.high i.unit

/-- A power of ten or two, times the power that its negative exponent lacks. -/
theorem zpow_mul_pow_toNat_neg {b : ℚ} (hb : b ≠ 0) (e : Int) :
    b ^ e * b ^ (-e).toNat = b ^ e.toNat := by
  rw [← zpow_natCast, ← zpow_natCast, ← zpow_add₀ hb]
  congr 1
  omega

/-- What both sides of a comparison are multiplied by. -/
def missing (i : Interval) (t : Int) : ℚ := 10 ^ (-t).toNat * 2 ^ (-i.unit).toNat

theorem missing_pos (i : Interval) (t : Int) : 0 < i.missing t := by
  unfold missing
  positivity

theorem scales_eq (i : Interval) (t : Int) :
    i.scales t = (10 ^ t.toNat * 2 ^ (-i.unit).toNat, 10 ^ (-t).toNat * 2 ^ i.unit.toNat) := by
  simp only [scales, Nat.shiftLeft_eq, Nat.pow_eq]

theorem step_eq (i : Interval) (t : Int) (c : Nat) :
    ((c * (i.scales t).1 : Nat) : ℚ) = c * 10 ^ t * i.missing t := by
  have hten := zpow_mul_pow_toNat_neg (show (10 : ℚ) ≠ 0 by norm_num) t
  rw [scales_eq, missing]
  push_cast
  rw [← hten]
  ring

theorem unit_eq (i : Interval) (t : Int) (n : Nat) :
    ((n * (i.scales t).2 : Nat) : ℚ) = dyadic n i.unit * i.missing t := by
  have htwo := zpow_mul_pow_toNat_neg (show (2 : ℚ) ≠ 0 by norm_num) i.unit
  rw [scales_eq, missing, dyadic]
  push_cast
  rw [← htwo]
  ring

/-- Whether a point of a grid is found in the interval is whether it lies there. -/
theorem holds_iff : i.holds t c = true ↔ Mem (c * 10 ^ t) i := by
  have hpos := i.missing_pos t
  have hle : ∀ {a b : Nat} {p q : ℚ}, (a : ℚ) = p * i.missing t → (b : ℚ) = q * i.missing t →
      (a ≤ b ↔ p ≤ q) := fun ha hb => by
    rw [← Nat.cast_le (α := ℚ), ha, hb, mul_le_mul_iff_of_pos_right hpos]
  have hlt : ∀ {a b : Nat} {p q : ℚ}, (a : ℚ) = p * i.missing t → (b : ℚ) = q * i.missing t →
      (a < b ↔ p < q) := fun ha hb => by
    rw [← Nat.cast_lt (α := ℚ), ha, hb, mul_lt_mul_iff_of_pos_right hpos]
  unfold holds Mem
  dsimp only
  split
  · simp only [Bool.decide_and, Bool.and_eq_true, decide_eq_true_eq,
      hle (i.unit_eq t _) (i.step_eq t c), hle (i.step_eq t c) (i.unit_eq t _)]
  · simp only [Bool.decide_and, Bool.and_eq_true, decide_eq_true_eq,
      hlt (i.unit_eq t _) (i.step_eq t c), hlt (i.step_eq t c) (i.unit_eq t _)]

theorem scales_snd_pos (i : Interval) (t : Int) : 0 < (i.scales t).2 := by
  rw [scales_eq]
  positivity

/-- Zero is not in an interval of positive numbers. -/
theorem pos_of_holds (hlow : 0 < i.low) (h : i.holds t c = true) : 0 < c := by
  have hpos := Nat.mul_pos hlow (i.scales_snd_pos t)
  refine Nat.pos_of_ne_zero ?_
  rintro rfl
  unfold holds at h
  dsimp only at h
  rw [Nat.zero_mul] at h
  split at h
  all_goals
    simp only [Bool.decide_and, Bool.and_eq_true, decide_eq_true_eq] at h
    omega

/-! ## The search -/

theorem holds_of_nearest? (h : i.nearest? tie t = some c) : i.holds t c = true := by
  unfold nearest? at h
  dsimp only at h
  split at h
  · contradiction
  · next hbelow _ => exact Option.some.inj h ▸ hbelow
  · next habove => exact Option.some.inj h ▸ habove
  · next hbelow habove =>
    split at h
    · exact Option.some.inj h ▸ hbelow
    split at h
    · exact Option.some.inj h ▸ habove
    split at h
    · exact Option.some.inj h ▸ habove
    · split at h
      · exact Option.some.inj h ▸ hbelow
      · exact Option.some.inj h ▸ habove

/-- If the last grid has a hit, the search ends with one. -/
theorem holds_coarsest {steps : Nat} (h : (i.nearest? tie (t - steps)).isSome) :
    i.holds (i.coarsest tie t steps).exponent (i.coarsest tie t steps).coefficient = true := by
  induction steps generalizing t with
  | zero =>
    obtain ⟨c, hc⟩ := Option.isSome_iff_exists.mp h
    rw [Int.natCast_zero, Int.sub_zero] at hc
    rw [coarsest, hc]
    exact holds_of_nearest? hc
  | succ steps ih =>
    rw [coarsest]
    split
    · next c hc => exact holds_of_nearest? hc
    · exact ih (by rwa [Int.sub_sub, Int.add_comm 1, ← Int.natCast_succ])

/-- A grid that has the centre for a point has a hit. -/
theorem isSome_nearest?_of_dvd (hlow : i.low < i.centre) (hhigh : i.centre < i.high)
    (hdvd : (i.scales t).1 ∣ i.centre * (i.scales t).2) : (i.nearest? tie t).isSome := by
  have hunit := i.scales_snd_pos t
  have hbelow : i.holds t (i.centre * (i.scales t).2 / (i.scales t).1) = true := by
    have hl := Nat.mul_lt_mul_of_pos_right hlow hunit
    have hh := Nat.mul_lt_mul_of_pos_right hhigh hunit
    unfold holds
    dsimp only
    rw [Nat.div_mul_cancel hdvd]
    split <;> simp <;> omega
  unfold nearest?
  dsimp only
  rw [hbelow]
  split
  · contradiction
  · rfl
  · contradiction
  · repeat' split
    all_goals rfl

/-- Where neither the power of ten nor that of two is greater than one, the number is a point of the
grid. -/
theorem isSome_nearest?_around {x : Binary64} (hx : x.significand ≠ 0) (ht : t ≤ 0)
    (hexponent : t ≤ x.exponent) : ((Interval.around x).nearest? tie t).isSome := by
  refine isSome_nearest?_of_dvd ?_ ?_ ?_
  · simp only [around]
    split <;> omega
  · simp only [around]
    omega
  · have hpow : 2 ^ (-(x.exponent - 2)).toNat ∣ 2 ^ 2 * 10 ^ (-t).toNat := by
      have hle : (-(x.exponent - 2)).toNat ≤ 2 + (-t).toNat := by omega
      refine (Nat.pow_dvd_pow 2 hle).trans ?_
      rw [Nat.pow_add]
      exact Nat.mul_dvd_mul_left _ (pow_dvd_pow_of_dvd (by decide) _)
    have hstep : ((around x).scales t).1 = 2 ^ (-(x.exponent - 2)).toNat := by
      rw [scales_eq, Int.toNat_of_nonpos ht]
      exact Nat.one_mul _
    have hunit : (around x).centre * ((around x).scales t).2
        = 2 ^ 2 * 10 ^ (-t).toNat * (x.significand * 2 ^ (x.exponent - 2).toNat) := by
      rw [scales_eq]
      show 4 * x.significand * (10 ^ (-t).toNat * 2 ^ (x.exponent - 2).toNat) = _
      ring
    rw [hstep, hunit]
    exact hpow.mul_right _

end Interval

/-! ## The decimal that is written -/

variable {x : Binary64} {tie : TieRule}

theorem holds_shortest (hx : x.significand ≠ 0) :
    (Interval.around x).holds (shortest tie x).exponent (shortest tie x).coefficient = true := by
  rw [shortest, if_neg hx]
  refine Interval.holds_coarsest (Interval.isSome_nearest?_around hx ?_ ?_) <;> omega

/-- The decimal that is written rounds to the number. -/
theorem value_shortest_mem (hx : x.significand ≠ 0) :
    Interval.Mem (shortest tie x).value (Interval.around x) :=
  Interval.holds_iff.mp (holds_shortest hx)

/-- Only zero is written as zero. -/
theorem coefficient_shortest_pos (hx : x.significand ≠ 0) : 0 < (shortest tie x).coefficient := by
  refine Interval.pos_of_holds ?_ (holds_shortest hx)
  simp only [Interval.around]
  split <;> omega

end TableGateway.Decimal
