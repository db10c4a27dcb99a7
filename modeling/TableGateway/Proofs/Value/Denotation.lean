import Mathlib.Data.List.TakeWhile
import TableGateway.Proofs.Decimal.Digits
import TableGateway.Proofs.Decimal.ExactValue
import TableGateway.Value.Basic

/-!
# The integers that values denote

A value denotes an integer in one of four ways: it is one, it is a boolean, it is a floating-point
number whose exact value is whole, or it is a text that spells one out, with blanks around it. What
a value denotes may be of any size. `toInt64?` gives the number where it has 64 bits; beyond that it
refuses a text, but gives the nearest end of the range for a floating-point number.

Main statements: `readInt?_eq_some_iff`, `trimBlank_around`, `toInt64?_eq_some_iff`.
-/

namespace TableGateway

/-! ## Numerals -/

namespace Decimal

/-- An optionally signed run of digits, and the integer that it denotes. -/
inductive Numeral : List Char → Int → Prop where
  | unsigned {run : List Char} (h : IsRun run) : Numeral run (Nat.ofDigitChars 10 run 0)
  | plus {run : List Char} (h : IsRun run) : Numeral ('+' :: run) (Nat.ofDigitChars 10 run 0)
  | minus {run : List Char} (h : IsRun run) : Numeral ('-' :: run) (-Nat.ofDigitChars 10 run 0)

theorem readNat?_eq_some_iff {run : List Char} {n : Nat} :
    readNat? run = some n ↔ IsRun run ∧ Nat.ofDigitChars 10 run 0 = n := by
  unfold readNat?
  split
  · exact ⟨fun h => by contradiction, fun h => absurd rfl h.1.ne_nil⟩
  · next hne =>
    split
    · next hall =>
      rw [List.all_eq_true] at hall
      rw [Option.some_inj]
      exact ⟨fun h => ⟨⟨hne, hall⟩, h⟩, fun h => h.2⟩
    · next hall =>
      rw [List.all_eq_true] at hall
      exact ⟨fun h => by contradiction, fun h => absurd h.1.digits hall⟩

theorem Numeral.ne_nil {numeral : List Char} {n : Int} (h : Numeral numeral n) : numeral ≠ [] := by
  cases h with
  | unsigned hrun => exact hrun.ne_nil
  | plus | minus => exact List.cons_ne_nil _ _

theorem readInt?_minus (run : List Char) :
    readInt? ('-' :: run) = (readNat? run).map fun n : Nat => -(n : Int) := by
  rw [readInt?]
  cases readNat? run <;> rfl

/-- Exactly the numerals are read, each as the integer that it denotes. -/
theorem readInt?_eq_some_iff {text : List Char} {n : Int} :
    readInt? text = some n ↔ Numeral text n := by
  constructor
  · intro h
    by_cases hminus : ∃ run, text = '-' :: run
    · obtain ⟨run, rfl⟩ := hminus
      rw [readInt?_minus] at h
      obtain ⟨m, hm, rfl⟩ := Option.map_eq_some_iff.mp h
      obtain ⟨hrun, rfl⟩ := readNat?_eq_some_iff.mp hm
      exact .minus hrun
    · unfold readInt? at h
      split at h
      · exact absurd ⟨_, rfl⟩ hminus
      all_goals
        obtain ⟨m, hm, rfl⟩ := Option.map_eq_some_iff.mp h
        obtain ⟨hrun, rfl⟩ := readNat?_eq_some_iff.mp hm
      · exact .plus hrun
      · exact .unsigned hrun
  · intro h
    cases h with
    | unsigned hrun =>
      unfold readInt?
      split
      · exact absurd hrun.head_isDigit (by decide)
      · exact absurd hrun.head_isDigit (by decide)
      · rw [readNat?_eq_some_iff.mpr ⟨hrun, rfl⟩]
        rfl
    | plus hrun =>
      rw [readInt?, readNat?_eq_some_iff.mpr ⟨hrun, rfl⟩]
      rfl
    | minus hrun =>
      rw [readInt?_minus, readNat?_eq_some_iff.mpr ⟨hrun, rfl⟩]
      rfl

end Decimal

/-! ## Blanks around a text -/

namespace Text

variable {before inner after text : List Char}

/-- Blanks, and nothing else. -/
def AllBlank (cs : List Char) : Prop := ∀ c ∈ cs, isBlank c

/-- Trimming takes blanks away and nothing else. -/
theorem exists_eq_around_trimBlank (text : List Char) :
    ∃ before after, AllBlank before ∧ AllBlank after
      ∧ text = before ++ trimBlank text ++ after := by
  have hback : ∀ cs : List Char,
      ∃ after, AllBlank after ∧ cs = (cs.reverse.dropWhile isBlank).reverse ++ after := by
    intro cs
    refine ⟨(cs.reverse.takeWhile isBlank).reverse, fun c hc => ?_, ?_⟩
    · exact List.mem_takeWhile_imp (List.mem_reverse.mp hc)
    · rw [← List.reverse_append, List.takeWhile_append_dropWhile, List.reverse_reverse]
  obtain ⟨after, hafter, heq⟩ := hback (text.dropWhile isBlank)
  refine ⟨text.takeWhile isBlank, after, fun c hc => List.mem_takeWhile_imp hc, hafter, ?_⟩
  rw [List.append_assoc, trimBlank, ← heq, List.takeWhile_append_dropWhile]

theorem dropWhile_isBlank_append (hbefore : AllBlank before) (hne : inner ≠ [])
    (hinner : ∀ c ∈ inner, isBlank c = false) :
    (before ++ (inner ++ after)).dropWhile isBlank = inner ++ after := by
  obtain ⟨c, rest, rfl⟩ := List.exists_cons_of_ne_nil hne
  have hc : ¬ isBlank c := by
    rw [hinner c List.mem_cons_self]
    decide
  rw [List.dropWhile_append_of_pos hbefore, List.cons_append, List.dropWhile_cons_of_neg hc]

/-- All blanks around a text without blanks are trimmed. -/
theorem trimBlank_around (hbefore : AllBlank before) (hafter : AllBlank after)
    (hne : inner ≠ []) (hinner : ∀ c ∈ inner, isBlank c = false) :
    trimBlank (before ++ inner ++ after) = inner := by
  have hafter' : AllBlank after.reverse := fun c hc => hafter c (List.mem_reverse.mp hc)
  have hinner' : ∀ c ∈ inner.reverse, isBlank c = false := fun c hc =>
    hinner c (List.mem_reverse.mp hc)
  have hback : (after.reverse ++ (inner.reverse ++ [])).dropWhile isBlank = inner.reverse ++ [] :=
    dropWhile_isBlank_append hafter' (List.reverse_ne_nil_iff.mpr hne) hinner'
  rw [List.append_nil] at hback
  rw [trimBlank, List.append_assoc, dropWhile_isBlank_append hbefore hne hinner,
    List.reverse_append, hback, List.reverse_reverse]

/-- A digit is no blank. -/
theorem isBlank_eq_false_of_isDigit {c : Char} (h : c.isDigit) : isBlank c = false := by
  rw [Char.isDigit, Bool.and_eq_true, decide_eq_true_eq, decide_eq_true_eq] at h
  have hlow : 48 ≤ c.toNat := h.1
  have hhigh : c.toNat ≤ 57 := h.2
  rw [← Bool.not_eq_true, isBlank, RangeTable.holds_iff]
  rintro ⟨range, hrange, hfirst, hlast⟩
  simp only [blankRanges, List.mem_cons, List.not_mem_nil, or_false] at hrange
  rcases hrange with rfl | rfl | rfl | rfl | rfl | rfl | rfl | rfl | rfl | rfl <;> omega

/-- A character of a numeral is no blank. -/
theorem isBlank_eq_false_of_numeral {numeral : List Char} {n : Int}
    (h : Decimal.Numeral numeral n) {c : Char} (hc : c ∈ numeral) : isBlank c = false := by
  have hsigned : ∀ {sign : Char} {run : List Char}, isBlank sign = false → Decimal.IsRun run →
      c ∈ sign :: run → isBlank c = false := by
    intro sign run hsign hrun hc
    rcases List.mem_cons.mp hc with rfl | hc
    · exact hsign
    · exact isBlank_eq_false_of_isDigit (hrun.digits c hc)
  cases h with
  | unsigned hrun => exact isBlank_eq_false_of_isDigit (hrun.digits c hc)
  | plus hrun => exact hsigned (by decide) hrun hc
  | minus hrun => exact hsigned (by decide) hrun hc

end Text

/-! ## The ends of the 64-bit range -/

/-- The integer lies beyond the 64-bit range, on the side of this end. -/
inductive BeyondEnd : Int → Int64 → Prop where
  | below {n : Int} (h : n < -0x8000000000000000) : BeyondEnd n Int64.minValue
  | above {n : Int} (h : 0x8000000000000000 ≤ n) : BeyondEnd n Int64.maxValue

theorem BeyondEnd.not_fits {n : Int} {i : Int64} (h : BeyondEnd n i) : ¬ FitsInt64 n := by
  rintro ⟨hlow, hhigh⟩
  cases h <;> omega

theorem exists_beyondEnd {n : Int} (h : ¬ FitsInt64 n) : ∃ i, BeyondEnd n i := by
  by_cases hlow : n < -0x8000000000000000
  · exact ⟨_, .below hlow⟩
  · refine ⟨_, .above ?_⟩
    rw [FitsInt64] at h
    omega

/-- The nearest 64-bit number is the integer itself, or the end that it lies beyond. -/
theorem clampInt64_eq_iff {n : Int} {i : Int64} :
    clampInt64 n = i ↔ i.toInt = n ∨ BeyondEnd n i := by
  by_cases hfits : FitsInt64 n
  · rw [clampInt64_eq hfits]
    constructor
    · rintro rfl
      exact .inl (toInt_ofInt hfits)
    · rintro (rfl | h)
      · exact Int64.ofInt_toInt i
      · exact absurd hfits h.not_fits
  · have hne : i.toInt ≠ n := fun h => hfits (h ▸ fitsInt64_toInt i)
    rw [or_iff_right hne]
    by_cases hlow : n < -0x8000000000000000
    · have hclamp : clampInt64 n = Int64.minValue := by
        rw [clampInt64, show max (-0x8000000000000000) (min n 0x7fffffffffffffff)
          = -0x8000000000000000 by omega]
        rfl
      rw [hclamp]
      constructor
      · rintro rfl
        exact .below hlow
      · rintro (h | h)
        · rfl
        · omega
    · have hhigh : 0x8000000000000000 ≤ n := by
        rw [FitsInt64] at hfits
        omega
      have hclamp : clampInt64 n = Int64.maxValue := by
        rw [clampInt64, show max (-0x8000000000000000) (min n 0x7fffffffffffffff)
          = 0x7fffffffffffffff by omega]
        rfl
      rw [hclamp]
      constructor
      · rintro rfl
        exact .above hhigh
      · rintro (h | h)
        · omega
        · rfl

/-! ## Denotations -/

namespace Value

/-- The integer that a value denotes. -/
inductive Denotes : Value → Int → Prop where
  | int (i : Int64) : Denotes (.int i) i.toInt
  | bool (b : Bool) : Denotes (.bool b) (if b then 1 else 0)
  /-- A floating-point number is taken by its exact value. -/
  | float {x : Float} {n : Int} (h : rational? x = some (n : ℚ)) : Denotes (.float x) n
  | text {s : String} {before numeral after : List Char} {n : Int}
      (hbefore : Text.AllBlank before) (hafter : Text.AllBlank after)
      (hnumeral : Decimal.Numeral numeral n) (hs : s.toList = before ++ numeral ++ after) :
      Denotes (.text s) n

theorem denotes_text_iff {s : String} {n : Int} :
    Denotes (.text s) n ↔ Decimal.readInt? (Text.trimBlank s.toList) = some n := by
  rw [Decimal.readInt?_eq_some_iff]
  constructor
  · intro h
    cases h with
    | text hbefore hafter hnumeral hs =>
      rw [hs, Text.trimBlank_around hbefore hafter hnumeral.ne_nil fun c hc =>
        Text.isBlank_eq_false_of_numeral hnumeral hc]
      exact hnumeral
  · intro h
    obtain ⟨before, after, hbefore, hafter, hs⟩ := Text.exists_eq_around_trimBlank s.toList
    exact .text hbefore hafter h hs

theorem denotes_float_iff {x : Float} {n : Int} :
    Denotes (.float x) n ↔ (Binary64.ofFloat? x).bind Binary64.toInt? = some n := by
  rw [Binary64.bind_toInt?_eq_some_iff]
  exact ⟨fun h => by cases h with | float h => exact h, .float⟩

theorem denotes_int_iff {i : Int64} {n : Int} : Denotes (.int i) n ↔ i.toInt = n :=
  ⟨fun h => by cases h; rfl, fun h => h ▸ .int i⟩

theorem denotes_bool_iff {b : Bool} {n : Int} :
    Denotes (.bool b) n ↔ (if b then 1 else 0) = n :=
  ⟨fun h => by cases h; rfl, fun h => h ▸ .bool b⟩

/-- A value that is no floating-point number is read as the 64-bit number that it denotes. -/
theorem toInt64?_eq_some_iff_denotes {v : Value} (hv : ∀ x, v ≠ .float x) {i : Int64} :
    v.toInt64? = some i ↔ v.Denotes i.toInt := by
  cases v with
  | int j => rw [toInt64?, Option.some_inj, denotes_int_iff, Int64.toInt_inj]
  | bool b =>
    rw [toInt64?, Option.some_inj, denotes_bool_iff, ← Int64.toInt_inj]
    cases b <;> rfl
  | float x => exact absurd rfl (hv x)
  | text s =>
    rw [toInt64?, Option.bind_eq_some_iff, denotes_text_iff]
    simp only [int64?_eq_some_iff, exists_eq_right']
  | null | dateTime | list => exact ⟨fun h => by contradiction, fun h => by cases h⟩

/-- A value is read as the 64-bit number that it denotes; a floating-point number beyond the range
is read as the nearest end of it. -/
theorem toInt64?_eq_some_iff {v : Value} {i : Int64} :
    v.toInt64? = some i
      ↔ v.Denotes i.toInt ∨ ∃ x n, v = .float x ∧ v.Denotes n ∧ BeyondEnd n i := by
  by_cases hv : ∀ x, v ≠ .float x
  · rw [toInt64?_eq_some_iff_denotes hv]
    exact (or_iff_left fun ⟨x, _, h, _⟩ => hv x h).symm
  · push Not at hv
    obtain ⟨x, rfl⟩ := hv
    rw [toInt64?, Option.map_eq_some_iff]
    simp only [← denotes_float_iff, clampInt64_eq_iff]
    constructor
    · rintro ⟨n, hn, rfl | hbeyond⟩
      · exact .inl hn
      · exact .inr ⟨x, n, rfl, hn, hbeyond⟩
    · rintro (h | ⟨_, n, -, hn, hbeyond⟩)
      · exact ⟨i.toInt, h, .inl rfl⟩
      · exact ⟨n, hn, .inr hbeyond⟩

/-- What is not read denotes no integer, or one beyond the range and not as a floating-point
number. -/
theorem toInt64?_eq_none_iff {v : Value} :
    v.toInt64? = none ↔ ∀ n, v.Denotes n → ¬ FitsInt64 n ∧ ∀ x, v ≠ .float x := by
  rw [Option.eq_none_iff_forall_ne_some]
  constructor
  · intro hnone n hn
    have hbeyond : ¬ FitsInt64 n := fun hfits =>
      hnone (.ofInt n) (toInt64?_eq_some_iff.mpr (.inl (by rwa [toInt_ofInt hfits])))
    refine ⟨hbeyond, ?_⟩
    rintro x rfl
    obtain ⟨i, hi⟩ := exists_beyondEnd hbeyond
    exact hnone i (toInt64?_eq_some_iff.mpr (.inr ⟨x, n, rfl, hn, hi⟩))
  · intro hbeyond i hi
    rcases toInt64?_eq_some_iff.mp hi with hn | ⟨x, n, rfl, hn, -⟩
    · exact (hbeyond _ hn).1 (fitsInt64_toInt i)
    · exact (hbeyond n hn).2 x rfl

end Value

end TableGateway
