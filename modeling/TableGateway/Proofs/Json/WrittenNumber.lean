import Mathlib.Tactic.FieldSimp
import TableGateway.Proofs.Decimal.Rounding
import TableGateway.Proofs.Json.Lexing

/-!
# The numerals of written numbers

A number is written down as a numeral of the grammar. The numeral of an integer denotes the integer.
The numeral of a floating-point number, in either layout, denotes the decimal that is written for
it, and so a number that rounds to it.

Main statements: `Number.wellFormed_numeral`, `Number.toList_text`,
`Number.writtenAs_value_numeral`.
-/

namespace TableGateway

open Decimal (IsRun isRun_digits ofDigitChars_digits)

/-- A finite number can be taken apart. -/
theorem Binary64.isSome_ofFloat? {x : Float} (h : x.isFinite) : (ofFloat? x).isSome := by
  have hrational : (rational? x).isSome := by
    unfold Float.isFinite Float.Model.isFinite at h
    unfold rational?
    cases hx : x.toModel.unpack with
    | infinity | notANumber =>
      rw [hx] at h
      contradiction
    | zero | finite => rfl
  rwa [← map_value_ofFloat?, Option.isSome_map] at hrational

namespace Json

/-! ## Layouts as numerals -/

namespace Numeral

/-- The numeral that has all places of a decimal. -/
def positional (negative : Bool) (d : Decimal) : Numeral :=
  let run := Decimal.digits d.coefficient
  match d.exponent with
  | .ofNat k => ⟨negative, run ++ List.replicate k '0', some ['0'], none⟩
  | .negSucc k =>
    let run := List.replicate (k + 2 - run.length) '0' ++ run
    ⟨negative, run.take (run.length - (k + 1)), some (run.drop (run.length - (k + 1))), none⟩

/-- The numeral of a decimal with one digit before the point, and an exponent. -/
def scientific (negative : Bool) (d : Decimal) : Numeral :=
  let run := Decimal.digits d.coefficient
  { negative
    whole := run.take 1
    fraction := if run.length = 1 then none else some run.tail
    exponent := some (d.leadingExponent < 0, Decimal.digits d.leadingExponent.natAbs) }

/-- The numeral of a floating-point number. -/
def ofBinary64 (x : Binary64) : Numeral :=
  let d := Decimal.shortest floatLayout.tie x
  if floatLayout.positional d.leadingExponent then positional x.negative d
  else scientific x.negative d

variable {negative : Bool} {d : Decimal}

theorem toList_positionalText (negative : Bool) (d : Decimal) :
    ((if negative then "-" else "") ++ d.positionalText ".0").toList
      = (positional negative d).spelling := by
  unfold Decimal.positionalText positional spelling
  cases d.exponent <;> cases negative <;> simp [fractionSpelling, exponentSpelling]

theorem toList_scientificText (negative : Bool) (d : Decimal) :
    ((if negative then "-" else "") ++ d.scientificText).toList
      = (scientific negative d).spelling := by
  have hfraction : ∀ run : List Char,
      (if run.length = 1 then "" else "." ++ String.ofList run.tail).toList
        = fractionSpelling (if run.length = 1 then none else some run.tail) := fun run => by
    split <;> simp [fractionSpelling]
  unfold Decimal.scientificText scientific spelling
  dsimp only
  rw [← hfraction]
  cases negative <;> by_cases h : d.leadingExponent < 0 <;>
    simp [h, exponentSpelling, Decimal.natText]

theorem toList_text_eq_spelling (x : Binary64) :
    (floatLayout.text x).toList = (ofBinary64 x).spelling := by
  unfold Decimal.FloatLayout.text ofBinary64
  dsimp only
  by_cases h : floatLayout.positional (Decimal.shortest floatLayout.tie x).leadingExponent
  · rw [if_pos h, if_pos h]
    exact toList_positionalText _ _
  · rw [if_neg h, if_neg h]
    exact toList_scientificText _ _

/-! ## Digits where there have to be some -/

/-- Apart from zero itself, the decimal has a coefficient that is not zero. -/
theorem wellFormed_positional (negative : Bool) (h : 0 < d.coefficient ∨ d = ⟨0, 0⟩) :
    (positional negative d).WellFormed := by
  have hsole : IsRun ['0'] := ⟨List.cons_ne_nil _ _, List.forall_mem_singleton.mpr rfl⟩
  rcases h with hpos | rfl
  · have hhead := Decimal.head?_digits_ne hpos
    have hrun := isRun_digits d.coefficient
    unfold positional
    dsimp only
    split
    · next k _ =>
      refine ⟨hrun.append fun c hc => ?_, fun hzero => ?_, ?_, nofun⟩
      · rw [List.eq_of_mem_replicate hc]
        decide
      · rw [List.head?_append_of_ne_nil _ hrun.ne_nil] at hzero
        exact absurd hzero hhead
      · rintro run ⟨⟩
        exact hsole
    · next k _ =>
      have hlong := hrun.zeros_append (k + 2 - (Decimal.digits d.coefficient).length)
      have hlength : (List.replicate (k + 2 - (Decimal.digits d.coefficient).length) '0'
          ++ Decimal.digits d.coefficient).length
            = k + 2 - (Decimal.digits d.coefficient).length
              + (Decimal.digits d.coefficient).length := by
        rw [List.length_append, List.length_replicate]
      refine ⟨hlong.take (by omega), fun hzero => ?_, ?_, nofun⟩
      · -- A zero in front is the only digit before the point.
        rw [List.head?_take, if_neg (by omega)] at hzero
        have hshort : (Decimal.digits d.coefficient).length < k + 2 := by
          refine Nat.lt_of_not_le fun hle => hhead ?_
          rwa [Nat.sub_eq_zero_of_le hle] at hzero
        rw [List.length_take]
        omega
      · rintro run ⟨⟩
        exact hlong.drop (by omega)
  · exact ⟨hsole, fun _ => rfl, fun run heq => Option.some.inj heq ▸ hsole, nofun⟩

theorem wellFormed_scientific (negative : Bool) (d : Decimal) :
    (scientific negative d).WellFormed := by
  have hrun := isRun_digits d.coefficient
  have hpos := List.length_pos_iff.mpr hrun.ne_nil
  refine ⟨hrun.take Nat.one_pos, fun _ => ?_, fun run heq => ?_, fun _ run heq => ?_⟩
  · simp only [scientific, List.length_take]
    omega
  · simp only [scientific] at heq
    split at heq
    · contradiction
    · next hlength =>
      rw [← Option.some.inj heq, ← List.drop_one]
      exact hrun.drop (by omega)
  · obtain ⟨-, rfl⟩ := Prod.mk.inj (Option.some.inj heq)
    exact isRun_digits _

theorem wellFormed_ofBinary64 (x : Binary64) : (ofBinary64 x).WellFormed := by
  unfold ofBinary64
  dsimp only
  split
  · refine wellFormed_positional _ ?_
    by_cases hx : x.significand = 0
    · exact .inr (if_pos hx)
    · exact .inl (Decimal.coefficient_shortest_pos hx)
  · exact wellFormed_scientific _ _

/-! ## What numerals denote -/

/-- The exponent of a numeral as an integer. -/
def writtenExponent (n : Numeral) : Int :=
  match n.exponent with
  | none => 0
  | some (negative, run) =>
    if negative then -(Nat.ofDigitChars 10 run 0 : Int) else Nat.ofDigitChars 10 run 0

/-- The absolute value of the number that a numeral denotes. -/
def absolute (n : Numeral) : ℚ :=
  Nat.ofDigitChars 10 (n.whole ++ n.fraction.getD []) 0
    * 10 ^ (n.writtenExponent - (n.fraction.getD []).length)

/-- The number that a numeral denotes. -/
def value (n : Numeral) : ℚ := if n.negative then -n.absolute else n.absolute

theorem absolute_positional (negative : Bool) (d : Decimal) :
    (positional negative d).absolute = d.value := by
  obtain ⟨c, exponent⟩ := d
  cases exponent with
  | ofNat k =>
    have hdigits : Nat.ofDigitChars 10 (Decimal.digits c ++ List.replicate k '0' ++ ['0']) 0
        = 10 * (10 ^ k * c) := by
      rw [Nat.ofDigitChars_append, Nat.ofDigitChars_append, Nat.ofDigitChars_replicate_zero,
        ofDigitChars_digits]
      rfl
    simp only [absolute, positional, writtenExponent, Option.getD_some, hdigits, Decimal.value]
    rw [Int.ofNat_eq_natCast, zpow_natCast, List.length_singleton, Nat.cast_one, zero_sub,
      zpow_neg_one]
    push_cast
    field_simp
  | negSucc k =>
    have hlength : k + 1 ≤ (List.replicate (k + 2 - (Decimal.digits c).length) '0'
        ++ Decimal.digits c).length := by
      rw [List.length_append, List.length_replicate]
      omega
    have hdigits : Nat.ofDigitChars 10 (List.replicate (k + 2 - (Decimal.digits c).length) '0'
        ++ Decimal.digits c) 0 = c := by
      rw [Nat.ofDigitChars_append, Nat.ofDigitChars_replicate_zero, Nat.mul_zero,
        ofDigitChars_digits]
    simp only [absolute, positional, writtenExponent, Option.getD_some, List.take_append_drop,
      hdigits, List.length_drop, Nat.sub_sub_self hlength, Decimal.value]
    rfl

theorem absolute_scientific (negative : Bool) (d : Decimal) :
    (scientific negative d).absolute = d.value := by
  have hpos := List.length_pos_iff.mpr (isRun_digits d.coefficient).ne_nil
  have hexponent : (scientific negative d).writtenExponent = d.leadingExponent := by
    simp only [writtenExponent, scientific, ofDigitChars_digits, decide_eq_true_eq]
    split <;> omega
  have hdigits : (scientific negative d).whole ++ (scientific negative d).fraction.getD []
      = Decimal.digits d.coefficient := by
    simp only [scientific]
    split
    · next hone => rw [Option.getD_none, List.append_nil, List.take_of_length_le (by omega)]
    · rw [Option.getD_some, ← List.drop_one, List.take_append_drop]
  have hlength : ((scientific negative d).fraction.getD []).length
      = (Decimal.digits d.coefficient).length - 1 := by
    simp only [scientific]
    split
    · next hone => rw [hone]; rfl
    · rw [Option.getD_some, List.length_tail]
  rw [absolute, hdigits, hlength, hexponent, ofDigitChars_digits, Decimal.value]
  congr 2
  rw [Decimal.leadingExponent]
  omega

theorem value_ofBinary64 (x : Binary64) :
    (ofBinary64 x).negative = x.negative
      ∧ (ofBinary64 x).absolute = (Decimal.shortest floatLayout.tie x).value := by
  unfold ofBinary64
  dsimp only
  split
  · refine ⟨?_, absolute_positional _ _⟩
    unfold positional
    dsimp only
    split <;> rfl
  · exact ⟨rfl, absolute_scientific _ _⟩

end Numeral

/-! ## Numbers -/

namespace Number

/-- The numeral that a number is written as. -/
def numeral : Number → Numeral
  | .integer n _ => ⟨n < 0, Decimal.digits n.natAbs, none, none⟩
  | .real x finite =>
    .ofBinary64 ((Binary64.ofFloat? x).get (Binary64.isSome_ofFloat? finite))

theorem wellFormed_numeral (n : Number) : n.numeral.WellFormed := by
  cases n with
  | integer n _ =>
    refine ⟨isRun_digits n.natAbs, fun hzero => ?_, nofun, nofun⟩
    -- Only zero itself begins with a zero.
    obtain rfl : n = 0 := Decidable.byContradiction fun hn =>
      Decimal.head?_digits_ne (Int.natAbs_pos.mpr hn) hzero
    rfl
  | real x finite => exact Numeral.wellFormed_ofBinary64 _

theorem toList_text (n : Number) : n.text.toList = n.numeral.spelling := by
  cases n with
  | integer n _ =>
    cases n with
    | ofNat n => simp [text, numeral, Decimal.intText, Decimal.natText, Numeral.spelling,
        Numeral.fractionSpelling, Numeral.exponentSpelling]
    | negSucc n => simp [text, numeral, Decimal.intText, Decimal.natText, Numeral.spelling,
        Numeral.fractionSpelling, Numeral.exponentSpelling, Int.negSucc_lt_zero]
  | real x finite =>
    obtain ⟨b, hb⟩ := Option.isSome_iff_exists.mp (Binary64.isSome_ofFloat? finite)
    simp only [text, numeral, hb, Option.get_some]
    exact Numeral.toList_text_eq_spelling b

/-- What a number may be written as: an integer as itself, a floating-point number as a number that
rounds to it. -/
def WrittenAs : Number → ℚ → Prop
  | .integer n _, q => q = n
  | .real x _, q => ∃ b m, Binary64.ofFloat? x = some b ∧ q = (if b.negative then -m else m)
    ∧ if b.significand = 0 then m = 0 else Decimal.Interval.Mem m (Decimal.Interval.around b)

theorem writtenAs_value_numeral (n : Number) : n.WrittenAs n.numeral.value := by
  cases n with
  | integer n _ =>
    simp only [WrittenAs, numeral, Numeral.value, Numeral.absolute, Numeral.writtenExponent,
      Option.getD_none, List.append_nil, ofDigitChars_digits, List.length_nil, Nat.cast_zero,
      sub_zero, zpow_zero, mul_one, decide_eq_true_eq, Nat.cast_natAbs]
    split
    · next hneg => rw [abs_of_neg hneg]; simp
    · next hpos => rw [abs_of_nonneg (not_lt.mp hpos)]
  | real x finite =>
    obtain ⟨b, hb⟩ := Option.isSome_iff_exists.mp (Binary64.isSome_ofFloat? finite)
    obtain ⟨hnegative, habsolute⟩ := Numeral.value_ofBinary64 b
    refine ⟨b, (Decimal.shortest floatLayout.tie b).value, hb, ?_, ?_⟩
    · simp only [numeral, hb, Option.get_some, Numeral.value, hnegative, habsolute]
    · split
      · next hzero =>
        rw [Decimal.shortest, if_pos hzero, Decimal.value, Nat.cast_zero, zero_mul]
      · next hx => exact Decimal.value_shortest_mem hx

end Number

end Json

end TableGateway
