/-!
# Decimal integers

The text of an integer has a minus sign where it is negative and no other sign, and no leading
zero. Reading is more liberal: one sign of either kind may stand in front, and zeros may lead.

Only the ten ASCII digits count as digits, as in every format that this library writes or reads.
-/

namespace TableGateway.Decimal

/-- The digits of a natural number, `0` for zero. -/
def digits (n : Nat) : List Char := Nat.toDigits 10 n

/-- The text of a natural number. -/
def natText (n : Nat) : String := String.ofList (digits n)

/-- The text of an integer. -/
def intText : Int → String
  | .ofNat n => natText n
  | .negSucc n => "-" ++ natText (n + 1)

/-- The number that a non-empty run of digits denotes. -/
def readNat? : List Char → Option Nat
  | [] => none
  | run => if run.all Char.isDigit then some (Nat.ofDigitChars 10 run 0) else none

/-- The number that an optionally signed non-empty run of digits denotes. -/
def readInt? : List Char → Option Int
  | '-' :: run => (readNat? run).map fun n => -(n : Int)
  | '+' :: run => (readNat? run).map Int.ofNat
  | run => (readNat? run).map Int.ofNat

theorem digits_ne_nil (n : Nat) : digits n ≠ [] := Nat.toDigits_ne_nil

/-- A number's text holds digits only. -/
theorem isDigit_of_mem_digits {n : Nat} {c : Char} (h : c ∈ digits n) : c.isDigit :=
  Nat.isDigit_of_mem_toDigits (by decide) (by decide) h

/-- Reading the text of a number gives the number. -/
theorem readNat?_digits (n : Nat) : readNat? (digits n) = some n := by
  unfold readNat?
  split
  · next h => exact absurd h (digits_ne_nil n)
  · next h =>
    have hall : (digits n).all Char.isDigit = true :=
      List.all_eq_true.mpr fun c hc => isDigit_of_mem_digits hc
    rw [if_pos hall]
    exact congrArg some Nat.ofDigitChars_ten_toDigits

/-- Reading the text of an integer gives the integer. -/
theorem readInt?_intText (n : Int) : readInt? (intText n).toList = some n := by
  cases n with
  | ofNat n =>
    rw [intText, natText, String.toList_ofList]
    unfold readInt?
    -- A run of digits has no sign in front.
    have hsign : ∀ {c : Char} {run : List Char}, digits n = c :: run → c.isDigit := fun hrun =>
      isDigit_of_mem_digits (hrun ▸ List.mem_cons_self)
    split
    · next hrun => exact absurd (hsign hrun) (by decide)
    · next hrun => exact absurd (hsign hrun) (by decide)
    · rw [readNat?_digits]
      rfl
  | negSucc n =>
    have htext : (intText (.negSucc n)).toList = '-' :: digits (n + 1) := by
      simp [intText, natText]
    rw [htext, readInt?, readNat?_digits]
    rfl

end TableGateway.Decimal
